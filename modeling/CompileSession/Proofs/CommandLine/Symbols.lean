import CompileSession.Proofs.CommandLine.Async
import CompileSession.Proofs.CommandLine.Spelling
import CompileSession.Proofs.Program.Lookups
import CompileSession.Proofs.Text.Lines

/-!
# Printing the addresses of symbols

Each name that is given behind the file has a line of its own, in the order of the arguments.  A
line starts with a column in which there is the address, or a dash if there is none; the name stands
behind that column.  What a line tells can be read back from it.
-/

namespace CompileSession.CommandLine

open Native

section Lines

/-- How wide the column is in which there is the address. -/
def columnWidth : Nat := 18

/-- The column for an address; zero stands for none. -/
inductive Column : Address → List Char → Prop where
  | address {address : Address} {digits : List Char} :
      address ≠ 0 → digits.length = 16 → Text.readHex? digits = some address.toNat →
      Column address ('0' :: 'x' :: digits)
  | dash : Column 0 (List.replicate 17 ' ' ++ ['-'])

/-- What stands behind the name; the error if it was not found. -/
def complaint (name : String) (address : Address) : List Char :=
  if address = 0 then (" (" ++ (SessionError.symbolNotFound name).message ++ ")").toList else []

/-- A line tells about a name which address was given for it. -/
def Tells (name : String) (address : Address) (line : List Char) : Prop :=
  ∃ column, Column address column ∧
    line = column ++ ' ' :: (name.toList ++ complaint name address)

def readColumn : List Char → Option Address
  | '0' :: 'x' :: digits => (Text.readHex? digits).map UInt64.ofNat
  | _ => some 0

/-- Reads a name and its address from a line. -/
def readSymbolLine (line : List Char) : Option (String × Address) :=
  (readColumn (line.take columnWidth)).map fun address =>
    let behind := line.drop (columnWidth + 1)
    (String.ofList (behind.take (behind.length - (complaint "" address).length)), address)

variable {name : String} {address : Address} {column line : List Char}

theorem Column.length_eq (fills : Column address column) : column.length = columnWidth := by
  cases fills with
  | address _ length _ => simp [length, columnWidth]
  | dash => rfl

theorem Column.read (fills : Column address column) : readColumn column = some address := by
  cases fills with
  | address _ _ value => simp [readColumn, value]
  | dash => rfl

/-- The name stands behind the column. -/
theorem Tells.drop_eq (tells : Tells name address line) :
    line.drop (columnWidth + 1) = name.toList ++ complaint name address := by
  obtain ⟨column, fills, rfl⟩ := tells
  rw [← fills.length_eq, List.drop_append, List.drop_eq_nil_of_le (by omega)]
  simp

/-- What a line tells can be read back. -/
theorem Tells.read (tells : Tells name address line) :
    readSymbolLine line = some (name, address) := by
  have behind := tells.drop_eq
  obtain ⟨column, fills, rfl⟩ := tells
  have field : (column ++ ' ' :: (name.toList ++ complaint name address)).take columnWidth =
      column := by
    rw [← fills.length_eq, List.take_left]
  have same : (complaint "" address).length = (complaint name address).length := rfl
  simp only [readSymbolLine, field, fills.read, behind, Option.map_some, same, List.length_append,
    Nat.add_sub_cancel, List.take_left, String.ofList_toList]

theorem column_of_ne_zero (nonzero : address ≠ 0) :
    Column address ("0x" ++ Text.hexPadded 16 address.toNat).toList := by
  have chars : ("0x" ++ Text.hexPadded 16 address.toNat).toList =
      '0' :: 'x' :: Text.fillLeft '0' 16 (Nat.toDigits 16 address.toNat) := by
    simp [Text.hexPadded]
  have few : (Nat.toDigits 16 address.toNat).length ≤ 16 := by
    apply (Nat.length_toDigits_le_iff (by decide) (by decide)).mpr
    exact address.toNat_lt
  rw [chars]
  apply Column.address nonzero
  · rw [Text.length_fillLeft]
    omega
  · rw [Text.readHex?_fillLeft, Text.readHex?_toDigits]

/-- Every name is told about with the address that was given for it. -/
theorem symbolLine_tells (name : String) (address : Address) :
    ∃ line : String, symbolLine name (Program.resolution name address) = line ++ "\n" ∧
      Tells name address line.toList := by
  unfold Program.resolution
  split
  case h_1 handle given =>
    have same := Script.address_of_ofAddress? given
    have nonzero : address ≠ 0 := same ▸ handle.address_ne_zero
    refine ⟨"0x" ++ Text.hexPadded 16 address.toNat ++ " " ++ name, ?_, ?_⟩
    · rw [symbolLine, same]
    · refine ⟨_, column_of_ne_zero nonzero, ?_⟩
      simp [complaint, nonzero]
  case h_2 given =>
    obtain rfl := Script.eq_zero_of_ofAddress? given
    refine ⟨Text.alignRight 18 "-" ++ " " ++ name ++
      (" (" ++ (SessionError.symbolNotFound name).message ++ ")"), ?_, ?_⟩
    · apply String.toList_inj.mp
      simp [symbolLine]
    · refine ⟨_, .dash, ?_⟩
      simp [complaint, Text.alignRight, Text.fillLeft]

theorem Column.plain (fills : Column address column) : '\n' ∉ column := by
  cases fills with
  | address _ _ value =>
      intro inside
      rcases List.mem_cons.mp inside with zero | inside
      · cases zero
      rcases List.mem_cons.mp inside with cross | inside
      · cases cross
      · cases Text.isSome_hexDigit?_of_readHex? value _ inside
  | dash => decide

theorem complaint_plain (name : String) (address : Address) : '\n' ∉ complaint name address := by
  unfold complaint
  split
  · change '\n' ∉ (" (" ++ "symbol error" ++ ")").toList
    decide
  · exact List.not_mem_nil

theorem Tells.plain (tells : Tells name address line) (plain : '\n' ∉ name.toList) :
    '\n' ∉ line := by
  obtain ⟨column, fills, rfl⟩ := tells
  simp only [List.mem_append, List.mem_cons, not_or]
  exact ⟨fills.plain, by decide, plain, complaint_plain name address⟩

/-- Lines that tell about names, each with its address. -/
inductive Listed : List String → List Address → List String → Prop where
  | nil : Listed [] [] []
  | cons {name : String} {address : Address} {line : String} {names : List String}
      {addresses : List Address} {lines : List String} :
      Tells name address line.toList → Listed names addresses lines →
      Listed (name :: names) (address :: addresses) (line :: lines)

variable {names : List String} {addresses : List Address} {lines : List String}

theorem Listed.plain (listed : Listed names addresses lines)
    (plain : ∀ name ∈ names, '\n' ∉ name.toList) : ∀ line ∈ lines, '\n' ∉ line.toList := by
  induction listed with
  | nil => exact List.forall_mem_nil _
  | cons tells _ ih =>
      obtain ⟨first, others⟩ := List.forall_mem_cons.mp plain
      exact List.forall_mem_cons.mpr ⟨tells.plain first, ih others⟩

/-- Every name stands behind the column of its line. -/
theorem Listed.columns (listed : Listed names addresses lines) :
    List.Forall₂ (fun name line => name.toList <+: line.toList.drop (columnWidth + 1))
      names lines := by
  induction listed with
  | nil => exact .nil
  | cons tells _ ih =>
      apply List.Forall₂.cons
      · rw [tells.drop_eq]
        exact List.prefix_append ..
      · exact ih

/-- All names and addresses can be read back. -/
theorem Listed.read (listed : Listed names addresses lines) :
    lines.map (fun line => readSymbolLine line.toList) = (names.zip addresses).map some := by
  induction listed with
  | nil => rfl
  | cons tells _ ih => rw [List.map_cons, tells.read, ih, List.zip_cons_cons, List.map_cons]

/-- As many addresses as names make as many lines. -/
theorem exists_listed (same : addresses.length = names.length) :
    ∃ lines, Listed names addresses lines ∧
      String.join (names.zipWith symbolLine (names.zipWith Program.resolution addresses)) =
        String.join (lines.map (· ++ "\n")) := by
  induction names generalizing addresses with
  | nil =>
      obtain rfl := List.eq_nil_of_length_eq_zero same
      exact ⟨[], .nil, rfl⟩
  | cons name names ih =>
      cases addresses with
      | nil => cases same
      | cons address addresses =>
          obtain ⟨lines, listed, joined⟩ := ih (Nat.succ.inj same)
          obtain ⟨line, written, tells⟩ := symbolLine_tells name address
          refine ⟨line :: lines, .cons tells listed, ?_⟩
          rw [List.zipWith_cons_cons, List.zipWith_cons_cons, String.join_cons, written, joined,
            List.map_cons, String.join_cons]

end Lines

section Names

variable {draft next : Draft} {texts : List String}

/-- A draft of a command that looks for symbols holds what is positional: the file, and behind it
the names. -/
def Draft.Holds (draft : Draft) (texts : List String) : Prop :=
  draft.arguments.file = texts.head?.map .ofText ∧ draft.names = texts.tail

theorem Draft.Holds.addValue (holds : draft.Holds texts) {option : Opt} {text : String}
    (added : draft.addValue option text = .ok next) : next.Holds texts := by
  cases option with
  | config | libPath =>
      simp only [Draft.addValue] at added
      cases set : setPath _ text <;> rw [set] at added <;> cases added
      exact holds
  | includePath | libraryPath =>
      simp only [Draft.addValue] at added
      cases set : addPath _ text <;> rw [set] at added <;> cases added
      exact holds
  | library | define =>
      cases added
      exact holds
  | verbose | help | version | async => cases added

theorem Draft.Holds.addPositional (holds : draft.Holds texts) {text : String}
    (added : draft.addPositional .symbols text = .ok next) : next.Holds (texts ++ [text]) := by
  obtain ⟨file, names⟩ := holds
  cases texts with
  | nil =>
      have nowhere : draft.arguments.file = none := file
      simp only [Draft.addPositional, nowhere] at added
      cases set : setPath none text with
      | error request =>
          rw [set] at added
          cases added
      | ok path =>
          rw [set] at added
          cases added
          unfold setPath at set
          split at set <;> cases set
          exact ⟨rfl, names⟩
  | cons first rest =>
      have known : draft.arguments.file = some (.ofText first) := file
      simp only [Draft.addPositional, known] at added
      cases added
      refine ⟨file, ?_⟩
      rw [names]
      rfl

theorem Draft.Holds.add (holds : draft.Holds texts) {item : Item}
    (added : draft.add .symbols item = .ok next) :
    next.Holds (texts ++ positionals [item]) := by
  cases item with
  | mistake => cases added
  | positional text => exact holds.addPositional added
  | value option text =>
      rw [positionals_value, List.append_nil]
      exact holds.addValue added
  | flag option =>
      have nothing : positionals [.flag option] = [] := rfl
      rw [nothing, List.append_nil]
      cases option with
      | verbose =>
          cases added
          exact holds
      | async =>
          simp only [Draft.add] at added
          split at added <;> cases added
          exact holds
      | _ => cases added

theorem Draft.Holds.foldlM {items : List Item} (holds : draft.Holds texts)
    (read : items.foldlM (Draft.add .symbols) draft = .ok next) :
    next.Holds (texts ++ positionals items) := by
  induction items generalizing draft texts with
  | nil =>
      cases read
      exact (List.append_nil texts).symm ▸ holds
  | cons item items ih =>
      rw [List.foldlM_cons] at read
      cases added : draft.add .symbols item with
      | error request =>
          rw [added] at read
          cases read
      | ok middle =>
          rw [added] at read
          have parts : positionals (item :: items) = positionals [item] ++ positionals items :=
            positionals_append [item] items
          rw [parts, ← List.append_assoc]
          exact ih (holds.add added) read

variable {file : Path} {compile : CompileArguments} {names words arguments : List String}
  {before verbosity : Nat}

/-- Arguments that ask for symbols hold the command, and behind it the file and the names are what
is positional, in this order. -/
structure Names (arguments : List String) (file : Path) (names : List String) : Prop where
  nonempty : names ≠ []
  positional : ∃ front words text, arguments = front ++ "symbols" :: words ∧ file = .ofText text ∧
    positionals (readItems CommandName.symbols.options words) = text :: names

theorem names_of_readCommand {name : CommandName}
    (asked : readCommand name before words = .execute (.symbols file compile names) verbosity) :
    Names (name.text :: words) file names := by
  unfold readCommand at asked
  cases read : (readItems name.options words).foldlM (Draft.add name) {} with
  | error request =>
      rw [read] at asked
      exact absurd asked (Draft.stops_foldlM read _ _)
  | ok draft =>
      rw [read] at asked
      dsimp only at asked
      cases chosen : draft.command? name with
      | none =>
          rw [chosen] at asked
          cases asked
      | some command =>
          rw [chosen] at asked
          obtain ⟨rfl, -⟩ := Request.execute.inj asked
          unfold Draft.command? at chosen
          split at chosen
          case h_1 => cases chosen
          case h_2 => cases chosen
          case h_4 => cases chosen
          case h_3 known =>
            split at chosen
            case isTrue => cases chosen
            case isFalse nonempty =>
              obtain ⟨rfl, rfl, rfl⟩ := Command.symbols.inj (Option.some.inj chosen)
              have start : Draft.Holds {} [] := ⟨rfl, rfl⟩
              obtain ⟨path, behind⟩ := start.foldlM read
              rw [List.nil_append] at path behind
              cases texts : positionals (readItems CommandName.symbols.options words) with
              | nil =>
                  rw [texts, known] at path
                  cases path
              | cons text rest =>
                  rw [texts] at path behind
                  rw [known] at path
                  refine ⟨nonempty, [], words, text, rfl, Option.some.inj path, ?_⟩
                  rw [texts, behind]
                  rfl

theorem stops_readTopic (words : List String) : (readTopic words).Stops := by
  unfold readTopic
  split
  · exact stops_showHelp _
  · split
    · exact stops_showHelp _
    · exact stops_usageError
  · exact stops_usageError

theorem names_of_readRequest
    (asked : readRequest before arguments = .execute (.symbols file compile names) verbosity) :
    Names arguments file names := by
  induction arguments generalizing before with
  | nil => cases asked
  | cons argument rest ih =>
      unfold readRequest at asked
      split at asked
      case isTrue => cases asked
      split at asked
      case isTrue =>
        split at asked
        case h_1 stopped => exact absurd asked (stops_readFront stopped _ _)
        case h_2 =>
          obtain ⟨nonempty, front, words, text, rfl, spelled, positional⟩ := ih asked
          exact ⟨nonempty, argument :: front, words, text, rfl, spelled, positional⟩
      split at asked
      case isTrue => exact absurd asked (stops_readTopic rest _ _)
      split at asked
      case h_1 name known =>
        have same : name.text = argument := by
          simpa using List.find?_some known
        rw [← same]
        exact names_of_readCommand asked
      case h_2 => cases asked

end Names

/-- How a process ends that was to print the addresses of symbols: with one line for each name, or
with nothing printed if there are no addresses. -/
inductive Printed (names : List String) : Option (List Address) → Exit → Prop where
  | nothing {exit : Exit} : exit.status = 1 → exit.stdout = "" → Printed names none exit
  | lines {exit : Exit} {addresses : List Address} {lines : List String} :
      exit.status = 0 → Text.splitLines exit.stdout = lines ++ [""] →
      Listed names addresses lines →
      List.Forall₂ (fun name line => name.toList <+: line.toList.drop (columnWidth + 1))
        names lines →
      lines.map (fun line => readSymbolLine line.toList) = (names.zip addresses).map some →
      Printed names (some addresses) exit

variable {ν : Type} (code : ForeignCode ν) {surroundings : Surroundings}
  {arguments names : List String} {file : Path} {compile : CompileArguments} {verbosity : Nat}

/-- There is a configuration for a command, and a session can be made with it. -/
def Opens (surroundings : Surroundings) (compile : CompileArguments) (host : Host (Shared ν)) :
    Prop :=
  ∃ config, compile.sessionConfig surroundings = .ok config ∧
    Program.Opens code surroundings.environment config host

theorem run_symbols_of_error {error : ProgramError} (host : Host (Shared ν))
    (asked : Request.ofArguments arguments = .execute (.symbols file compile names) verbosity)
    (failed : compile.sessionConfig surroundings = .error error) :
    Printed names none (run code surroundings arguments host).1 ∧
      (run code surroundings arguments host).2 = host := by
  simp only [run, asked, execute, failed]
  exact ⟨.nothing rfl rfl, trivial⟩

/-- What is said about the names is what is printed. -/
theorem run_symbols_of_ok {config : SessionConfig} {result : Option (List Address)}
    (host : Host (Shared ν))
    (asked : Request.ofArguments arguments = .execute (.symbols file compile names) verbosity)
    (made : compile.sessionConfig surroundings = .ok config)
    (plain : ∀ name ∈ names, '\n' ∉ name.toList)
    (many : ∀ addresses ∈ result, addresses.length = names.length)
    (finds : Program.Finds names result
      (Program.findSymbols code surroundings.environment file names config host).1) :
    Printed names result (run code surroundings arguments host).1 ∧
      (run code surroundings arguments host).2 =
        (Program.findSymbols code surroundings.environment file names config host).2 := by
  simp only [run, asked, execute, made]
  generalize Program.findSymbols code surroundings.environment file names config host = ending at *
  obtain ⟨answer, after⟩ := ending
  cases result with
  | none =>
      obtain ⟨error, rfl⟩ := finds
      exact ⟨.nothing rfl rfl, rfl⟩
  | some addresses =>
      obtain rfl : answer = .ok (names.zipWith Program.resolution addresses) := finds
      obtain ⟨lines, listed, joined⟩ := exists_listed (many addresses rfl)
      refine ⟨.lines rfl ?_ listed listed.columns listed.read, rfl⟩
      exact (congrArg Text.splitLines joined).trans (Text.splitLines_join (listed.plain plain))

/-- A process that is asked for symbols prints a line for each of the names that were given, in
order, once the file was compiled and relocated; that a name is not found makes no difference to how
the process ends.  If the file cannot be compiled or relocated it prints nothing and exits with one,
no name is looked up, and a file that was not compiled is not relocated. -/
theorem symbols_printed (host : Host (Shared ν))
    (asked : Request.ofArguments arguments = .execute (.symbols file compile names) verbosity)
    (plain : ∀ name ∈ names, '\n' ∉ name.toList) :
    Names arguments file names ∧
    ∃ context setup made result,
      (∀ exchange ∈ setup, exchange.Configures) ∧
      exchanges (run code surroundings arguments host).2.journal =
        exchanges host.journal ++ setup ++ made ∧
      Printed names result (run code surroundings arguments host).1 ∧
      (Opens code surroundings compile host →
        Program.Sought context file.display names result made) ∧
      (¬ Opens code surroundings compile host → result = none ∧ made = []) := by
  refine ⟨names_of_readRequest asked, ?_⟩
  cases made : compile.sessionConfig surroundings with
  | error error =>
      obtain ⟨printed, after⟩ := run_symbols_of_error code host asked made
      refine ⟨0, [], [], none, List.forall_mem_nil _, ?_, printed, ?_, fun _ => ⟨rfl, rfl⟩⟩
      · rw [after, List.append_nil, List.append_nil]
      · rintro ⟨config, configured, -⟩
        rw [made] at configured
        cases configured
  | ok config =>
      obtain ⟨context, setup, asks, result, configuring, kept, finds, opened, closed⟩ :=
        Program.findSymbols_sought code surroundings.environment file names config host
      have opens : Opens code surroundings compile host ↔
          Program.Opens code surroundings.environment config host := by
        constructor
        · rintro ⟨other, configured, opens⟩
          obtain rfl := Except.ok.inj (made.symm.trans configured)
          exact opens
        · intro opens
          exact ⟨config, made, opens⟩
      have many : ∀ addresses ∈ result, addresses.length = names.length := by
        rintro addresses ⟨⟩
        by_cases could : Program.Opens code surroundings.environment config host
        · cases opened could with
          | built _ _ _ lookedUp => exact lookedUp.length_eq
        · cases (closed could).1
      obtain ⟨printed, after⟩ := run_symbols_of_ok code host asked made plain many finds
      refine ⟨context, setup, asks, result, configuring, ?_, printed, ?_, ?_⟩
      · rw [after, kept]
      · exact fun could => opened (opens.mp could)
      · exact fun could => closed (mt opens.mpr could)

/-- A library that takes all it is given and knows one symbol. -/
def oneSymbol : ForeignCode Unit where
  openImage _ _ := .ok 0
  missing? _ _ _ := none
  invoke {kind} _ call state memory :=
    { result :=
        match kind, call with
        | .address, .getSymbol _ name => if name.bytes = Text.encode "main" then 255 else 0
        | .address, _ => (16 : Address)
        | .code, _ => (0 : Int32)
        | .nothing, _ => ()
      state, memory, reports := [] }

theorem symbols_printed_sample :
    Opens oneSymbol oneFile { file := some (.ofText "a.c") } Program.freshHost ∧
    ∃ context setup made result,
      exchanges (run oneSymbol oneFile ["symbols", "a.c", "main", "none", "main"]
        Program.freshHost).2.journal = setup ++ made ∧
      Printed ["main", "none", "main"] result
        (run oneSymbol oneFile ["symbols", "a.c", "main", "none", "main"]
          Program.freshHost).1 ∧
      Program.Sought context "a.c" ["main", "none", "main"] result made := by
  have opens : Opens oneSymbol oneFile { file := some (.ofText "a.c") } Program.freshHost :=
    ⟨_, rfl, rfl⟩
  have asked : Request.ofArguments ["symbols", "a.c", "main", "none", "main"] =
      .execute (.symbols (.ofText "a.c") { file := some (.ofText "a.c") }
        ["main", "none", "main"]) 0 := rfl
  obtain ⟨-, context, setup, made, result, -, kept, printed, opened, -⟩ :=
    symbols_printed oneSymbol Program.freshHost asked (by decide)
  have sought := opened opens
  rw [Path.display_ofText] at sought
  exact ⟨opens, context, setup, made, result, kept, printed, sought⟩

example :
    Text.splitLines (run oneSymbol oneFile ["symbols", "a.c", "main", "none", "main"]
      Program.freshHost).1.stdout =
      ["0x00000000000000ff main", "                 - none (symbol error)",
        "0x00000000000000ff main", ""] := by
  have asked : Request.ofArguments ["symbols", "a.c", "main", "none", "main"] =
      .execute (.symbols (.ofText "a.c") { file := some (.ofText "a.c") }
        ["main", "none", "main"]) 0 := rfl
  have made : CompileArguments.sessionConfig { file := some (.ofText "a.c") } oneFile =
      .ok { mode := .execute } := rfl
  simp only [run, asked, execute, made, Program.findSymbols, Path.display_ofText]
  rfl

end CompileSession.CommandLine
