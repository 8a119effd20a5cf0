import CompileSession.CommandLine.Run
import CompileSession.Proofs.Program.Agreement

/-!
# Running asynchronously from the command line

A file that is run asynchronously is read, and its text is compiled on a worker.  Told behind the
command, that option changes nothing else of what the arguments ask for, and on a library that takes
a file for its text it makes no difference to how the process ends.
-/

namespace CompileSession.CommandLine

open Native

/-- A request that is no command. -/
def Request.Stops (request : Request) : Prop :=
  ∀ command verbosity, request ≠ .execute command verbosity

theorem stops_usageError : Request.usageError.Stops := by
  intro command verbosity
  exact Request.noConfusion

theorem stops_showHelp (topic : Topic) : (Request.showHelp topic).Stops := by
  intro command verbosity
  exact Request.noConfusion

namespace Draft

/-- The same draft with or without the option for running asynchronously. -/
def withAsync (async : Bool) (draft : Draft) : Draft :=
  { draft with async }

variable {name : CommandName} (draft : Draft) {next final : Draft} (async : Bool)

theorem addValue_withAsync (option : Opt) (text : String) :
    (draft.withAsync async).addValue option text =
      (draft.addValue option text).map (withAsync async) := by
  cases option with
  | config | libPath =>
      simp only [addValue, withAsync]
      cases setPath _ text <;> rfl
  | includePath | libraryPath =>
      simp only [addValue, withAsync]
      cases addPath _ text <;> rfl
  | _ => rfl

theorem addPositional_withAsync (text : String) :
    (draft.withAsync async).addPositional name text =
      (draft.addPositional name text).map (withAsync async) := by
  simp only [addPositional, withAsync]
  split
  · rfl
  · split
    · cases setPath none text <;> rfl
    · split <;> rfl

/-- Only the option itself has to do with running asynchronously. -/
theorem add_withAsync {item : Item} (other : item ≠ .flag .async) :
    (draft.withAsync async).add name item = (draft.add name item).map (withAsync async) := by
  cases item with
  | flag option =>
      cases option with
      | async => contradiction
      | _ => rfl
  | value option text => exact draft.addValue_withAsync async option text
  | positional text => exact draft.addPositional_withAsync async text
  | mistake => rfl

variable {draft}

theorem async_of_add {item : Item} (other : item ≠ .flag .async)
    (added : draft.add name item = .ok next) : next.async = draft.async := by
  have same : draft.add name item = (draft.add name item).map (withAsync draft.async) :=
    draft.add_withAsync draft.async other
  rw [added] at same
  have kept : next = next.withAsync draft.async := Except.ok.inj same
  calc next.async = (next.withAsync draft.async).async := congrArg Draft.async kept
    _ = draft.async := rfl

theorem stops_setPath {old : Option Path} {text : String} {request : Request}
    (stopped : setPath old text = .error request) : request.Stops := by
  unfold setPath at stopped
  split at stopped <;> cases stopped
  exact stops_usageError

theorem stops_addPath {paths : List Path} {text : String} {request : Request}
    (stopped : addPath paths text = .error request) : request.Stops := by
  unfold addPath at stopped
  split at stopped <;> cases stopped
  exact stops_usageError

theorem stops_addValue {option : Opt} {text : String} {request : Request}
    (stopped : draft.addValue option text = .error request) : request.Stops := by
  cases option with
  | config | libPath =>
      simp only [addValue] at stopped
      cases set : setPath _ text <;> rw [set] at stopped <;> cases stopped
      exact stops_setPath set
  | includePath | libraryPath =>
      simp only [addValue] at stopped
      cases set : addPath _ text <;> rw [set] at stopped <;> cases stopped
      exact stops_addPath set
  | library | define => cases stopped
  | verbose | help | version | async =>
      cases stopped
      exact stops_usageError

theorem stops_addPositional {text : String} {request : Request}
    (stopped : draft.addPositional name text = .error request) : request.Stops := by
  simp only [addPositional] at stopped
  split at stopped
  · cases stopped
    exact stops_usageError
  · split at stopped
    · cases set : setPath none text <;> rw [set] at stopped <;> cases stopped
      exact stops_setPath set
    · split at stopped <;> cases stopped
      exact stops_usageError

theorem stops_add {item : Item} {request : Request}
    (stopped : draft.add name item = .error request) : request.Stops := by
  cases item with
  | flag option =>
      cases option with
      | verbose => cases stopped
      | async =>
          simp only [add] at stopped
          split at stopped <;> cases stopped
          exact stops_usageError
      | help =>
          cases stopped
          exact stops_showHelp _
      | _ =>
          cases stopped
          exact stops_usageError
  | value option text => exact stops_addValue stopped
  | positional text => exact stops_addPositional stopped
  | mistake =>
      cases stopped
      exact stops_usageError

theorem stops_foldlM {items : List Item} {request : Request}
    (stopped : items.foldlM (add name) draft = .error request) : request.Stops := by
  induction items generalizing draft with
  | nil => cases stopped
  | cons item rest ih =>
      rw [List.foldlM_cons] at stopped
      cases added : draft.add name item with
      | error request =>
          rw [added] at stopped
          cases stopped
          exact stops_add added
      | ok next =>
          rw [added] at stopped
          exact ih stopped

/-- What is read without the option is read in the same way with the option in front. -/
theorem foldlM_async {items : List Item} (read : items.foldlM (add name) draft = .ok final)
    (sync : final.async = false) :
    draft.async = false ∧
      items.foldlM (add name) (draft.withAsync true) = .ok (final.withAsync true) := by
  induction items generalizing draft with
  | nil =>
      cases read
      exact ⟨sync, rfl⟩
  | cons item rest ih =>
      rw [List.foldlM_cons] at read
      cases added : draft.add name item with
      | error request =>
          rw [added] at read
          cases read
      | ok next =>
          rw [added] at read
          obtain ⟨nextSync, followed⟩ := ih read
          have other : item ≠ .flag .async := by
            rintro rfl
            simp only [add] at added
            split at added <;> cases added
            cases nextSync
          refine ⟨(async_of_add other added).symm.trans nextSync, ?_⟩
          rw [List.foldlM_cons, add_withAsync draft true other, added]
          exact followed

end Draft

theorem readItems_async (rest : List String) :
    readItems CommandName.run.options ("--async" :: rest) =
      .flag .async :: readItems CommandName.run.options rest := by
  have word : readOption CommandName.run.options "--async" = ([.flag .async], none) := by decide
  have looks : looksLikeOption "--async" = true := by decide
  have bare : ¬ "--async" = "--" := by decide
  conv_lhs => unfold readItems
  rw [if_neg bare, if_pos looks, word]
  rfl

/-- The option behind the command makes the command asynchronous and changes nothing else. -/
theorem readCommand_async {rest : List String} {file : Path} {arguments : CompileArguments}
    {before verbosity : Nat}
    (asked : readCommand .run before rest = .execute (.run file arguments false) verbosity) :
    readCommand .run before ("--async" :: rest) =
      .execute (.run file arguments true) verbosity := by
  unfold readCommand at asked ⊢
  rw [readItems_async, List.foldlM_cons]
  cases read : (readItems CommandName.run.options rest).foldlM (Draft.add .run) {} with
  | error request =>
      rw [read] at asked
      exact absurd asked (Draft.stops_foldlM read _ _)
  | ok draft =>
      rw [read] at asked
      dsimp only at asked
      cases chosen : draft.arguments.file with
      | none => simp [Draft.command?, chosen] at asked
      | some path =>
          simp only [Draft.command?, chosen, Request.execute.injEq, Command.run.injEq] at asked
          obtain ⟨⟨rfl, rfl, sync⟩, rfl⟩ := asked
          obtain ⟨-, followed⟩ := Draft.foldlM_async read sync
          have read : (Draft.add .run {} (.flag .async) >>= fun first =>
              (readItems CommandName.run.options rest).foldlM (Draft.add .run) first) =
                .ok (draft.withAsync true) := followed
          rw [read]
          simp only [Draft.command?, Draft.withAsync, chosen]
          rfl

theorem stops_readFront {items : List Item} {before : Nat} {request : Request}
    (stopped : readFront before items = .error request) : request.Stops := by
  induction items generalizing before with
  | nil => cases stopped
  | cons item rest ih =>
      unfold readFront at stopped
      split at stopped
      case h_1 => cases stopped
      case h_2 same =>
        cases same
        exact ih stopped
      case h_3 =>
        cases stopped
        exact stops_showHelp _
      case h_4 =>
        cases stopped
        intro command verbosity
        exact Request.noConfusion
      case h_5 =>
        cases stopped
        exact stops_usageError

/-- Options in front of the command are read in the same way. -/
theorem readRequest_async {front rest : List String} {file : Path} {arguments : CompileArguments}
    {before verbosity : Nat} (options : ∀ argument ∈ front, looksLikeOption argument = true)
    (asked : readRequest before (front ++ "run" :: rest) =
      .execute (.run file arguments false) verbosity) :
    readRequest before (front ++ "run" :: "--async" :: rest) =
      .execute (.run file arguments true) verbosity := by
  induction front generalizing before with
  | nil =>
      have bare : ¬ "run" = "--" := by decide
      have looks : ¬ looksLikeOption "run" = true := by decide
      have help : ¬ "run" = "help" := by decide
      have name : CommandName.ofText? "run" = some .run := by decide
      simp only [List.nil_append, readRequest, if_neg bare, if_neg looks, if_neg help, name]
        at asked ⊢
      exact readCommand_async asked
  | cons argument front ih =>
      obtain ⟨looks, others⟩ := List.forall_mem_cons.mp options
      simp only [List.cons_append, readRequest, if_pos looks] at asked ⊢
      split at asked
      · cases asked
      · rename_i bare
        rw [if_neg bare]
        split at asked
        case h_1 request stopped =>
          exact absurd asked (stops_readFront stopped _ _)
        case h_2 after read =>
          exact ih others asked

theorem mode_defineAll (config : SessionConfig) (specs : List String) :
    (config.defineAll specs).mode = config.mode := by
  induction specs generalizing config with
  | nil => rfl
  | cons spec rest ih => exact ih (config.define spec)

/-- Whatever the configuration file says, what is run is for running. -/
theorem mode_sessionConfig {arguments : CompileArguments} {surroundings : Surroundings}
    {config : SessionConfig} (made : arguments.sessionConfig surroundings = .ok config) :
    config.mode = .execute := by
  unfold CompileArguments.sessionConfig at made
  split at made
  all_goals
    generalize Except.mapError _ _ = read at made
    cases read with
    | error error => cases made
    | ok config =>
        cases made
        exact mode_defineAll ..

/-- The status with which a process exits that has run a program. -/
def exitStatus : Except ProgramError Int32 → UInt8
  | .ok code => statusOfCode code
  | .error _ => 1

variable {ν : Type} (code : ForeignCode ν) {surroundings : Surroundings}

/-- A process has ended as a program did, with the same native calls. -/
def ExitsAs (exit : Exit × Host (Shared ν)) (ending : Program.Ending ν Int32) : Prop :=
  exit.1.status = exitStatus ending.1 ∧ exchanges exit.2.journal = exchanges ending.2.journal

theorem ExitsAs.trans {exit : Exit × Host (Shared ν)} {ending other : Program.Ending ν Int32}
    (exits : ExitsAs exit ending) (alike : Program.EndedAlike ending other) :
    ExitsAs exit other :=
  ⟨exits.1.trans (congrArg exitStatus alike.1), exits.2.trans alike.2⟩

theorem exitStatus_of_ranTwice {name source : CText} {result answer : Except ProgramError Int32}
    {made other : List Exchange} (ran : Program.RanTwice name source result answer made other) :
    exitStatus result = exitStatus answer := by
  cases ran <;> rfl

theorem run_eq (surroundings : Surroundings) {arguments : List String} {command : Command}
    {verbosity : Nat} (host : Host (Shared ν))
    (asked : Request.ofArguments arguments = .execute command verbosity) :
    (run code surroundings arguments host).2 = (execute code surroundings command host).2 ∧
      (run code surroundings arguments host).1.status =
        match (execute code surroundings command host).1 with
        | .ok (status, _) => status
        | .error _ => 1 := by
  simp only [run, asked]
  generalize execute code surroundings command host = ending
  obtain ⟨result, after⟩ := ending
  cases result <;> exact ⟨rfl, rfl⟩

/-- Without a configuration there is nothing to run a program in. -/
theorem run_of_error {arguments : List String} {file : Path} {compile : CompileArguments}
    {async : Bool} {verbosity : Nat} {error : ProgramError} (host : Host (Shared ν))
    (asked : Request.ofArguments arguments = .execute (.run file compile async) verbosity)
    (failed : compile.sessionConfig surroundings = .error error) :
    (run code surroundings arguments host).1.status = 1 ∧
      (run code surroundings arguments host).2 = host := by
  obtain ⟨after, status⟩ := run_eq code surroundings host asked
  simp only [execute, failed] at after status
  exact ⟨status, after⟩

theorem run_of_ok {arguments : List String} {file : Path} {compile : CompileArguments}
    {async : Bool} {verbosity : Nat} {config : SessionConfig} (host : Host (Shared ν))
    (asked : Request.ofArguments arguments = .execute (.run file compile async) verbosity)
    (made : compile.sessionConfig surroundings = .ok config) :
    ExitsAs (run code surroundings arguments host)
      (if async then Program.runText code surroundings file config host
        else Program.runFile code surroundings.environment file config host) := by
  obtain ⟨after, status⟩ := run_eq code surroundings host asked
  simp only [execute, made] at after status
  generalize (if async = true then Program.runText code surroundings file config host
    else Program.runFile code surroundings.environment file config host) = ending at *
  obtain ⟨result, final⟩ := ending
  refine ⟨status.trans ?_, by rw [after]⟩
  cases result <;> rfl

/-- On a library that takes a file for its text, a file that is run asynchronously ends with the
same status as one that is not, and the native calls are the same but for the one that compiles it.
Up to then nothing is relocated or run, and nothing more is asked of the library if the compile
fails.  How completions are delivered makes no difference, and neither does how the threads take
turns. -/
theorem run_async_agrees {front rest : List String} {file : Path} {compile : CompileArguments}
    {verbosity : Nat} {name source : String} (host : Host (Shared ν))
    (options : ∀ argument ∈ front, looksLikeOption argument = true)
    (asked : Request.ofArguments (front ++ "run" :: rest) =
      .execute (.run file compile false) verbosity)
    (spelled : file.text? = some name) (plainName : 0 ∉ file.bytes)
    (found : surroundings.files.readText file = .ok source)
    (plainSource : 0 ∉ Text.encode source)
    (same : ∀ image context state memory,
      code.invoke image (.addFile context ⟨file.bytes, plainName⟩) state memory =
        code.invoke image (.compileString context ⟨Text.encode source, plainSource⟩) state memory) :
    let sync := run code surroundings (front ++ "run" :: rest) host
    let async := run code surroundings (front ++ "run" :: "--async" :: rest) host
    (∃ result answer made other,
      Program.RanTwice ⟨file.bytes, plainName⟩ ⟨Text.encode source, plainSource⟩
        result answer made other ∧
      sync.1.status = exitStatus result ∧ async.1.status = exitStatus answer ∧
      sync.1.status = async.1.status ∧
      exchanges sync.2.journal = exchanges host.journal ++ made ∧
      exchanges async.2.journal = exchanges host.journal ++ other) ∧
    ∀ config, compile.sessionConfig surroundings = .ok config → ∀ delivery,
      ExitsAs sync (Program.runFile code surroundings.environment file { config with delivery }
        host) ∧
      ExitsAs async (Program.runText code surroundings file { config with delivery } host) ∧
      ∀ schedule, (∀ move ∈ schedule, move.pumps = true) →
        (Program.runTextAlong code schedule surroundings file { config with delivery } host).1 =
            .error .lost ∨
          ExitsAs async
            (Program.runTextAlong code schedule surroundings file { config with delivery }
              host) := by
  intro sync async
  have askedToo : Request.ofArguments (front ++ "run" :: "--async" :: rest) =
      .execute (.run file compile true) verbosity := readRequest_async options asked
  constructor
  · cases made : compile.sessionConfig surroundings with
    | error error =>
        obtain ⟨status, after⟩ := run_of_error code host asked made
        obtain ⟨statusToo, afterToo⟩ := run_of_error code host askedToo made
        refine ⟨.error error, .error error, [], [], .stopped .nil, status, statusToo,
          status.trans statusToo.symm, ?_, ?_⟩
        · rw [List.append_nil, after]
        · rw [List.append_nil, afterToo]
    | ok config =>
        have exits := run_of_ok code host asked made
        have exitsToo := run_of_ok code host askedToo made
        have bytes : Text.encode file.display = file.bytes := Path.encode_display spelled
        have plain : 0 ∉ Text.encode file.display := bytes ▸ plainName
        have name_eq : (⟨Text.encode file.display, plain⟩ : CText) = ⟨file.bytes, plainName⟩ := by
          simp only [bytes]
        obtain ⟨result, answer, ran, keptOne, keptTwo⟩ :=
          Program.runFile_runText code host (mode_sessionConfig made) plain found
            plainSource (by
              intro image context state memory
              rw [name_eq]
              exact same image context state memory)
        rw [name_eq] at ran
        refine ⟨_, _, result, answer, ran, exits.1, exitsToo.1, ?_, ?_, ?_⟩
        · rw [exits.1, exitsToo.1]
          exact exitStatus_of_ranTwice ran
        · exact exits.2.trans keptOne
        · exact exitsToo.2.trans keptTwo
  · intro config made delivery
    have exits := run_of_ok code host asked made
    have exitsToo := run_of_ok code host askedToo made
    have runs := mode_sessionConfig made
    refine ⟨exits.trans (Program.runFile_delivery code surroundings.environment delivery),
      exitsToo.trans (Program.runText_delivery code runs delivery), ?_⟩
    intro schedule pumps
    rcases Program.runTextAlong_alike code runs delivery pumps with lost | alike
    · exact .inl lost
    · exact .inr (exitsToo.trans alike)

/-- The surroundings of a process in a directory with one file. -/
def oneFile : Surroundings where
  files := { entries := [([Text.encode "a.c"], .file (Text.encode "int x;"))] }
  environment := []

theorem readText_oneFile : oneFile.files.readText (.ofText "a.c") = .ok "int x;" := by
  have bytes : oneFile.files.readBytes (.ofText "a.c") = .ok (Text.encode "int x;") := rfl
  have decoded : Text.decode? (Text.encode "int x;") = some "int x;" := Text.decode?_encode _
  simp only [FileTree.readText, bytes, bind, Except.bind, decoded]

theorem run_async_agrees_sample :
    (run (Program.steady 0 7) oneFile (["-v"] ++ "run" :: ["-lm", "a.c"])
        Program.freshHost).1.status = 7 ∧
      (run (Program.steady 0 7) oneFile (["-v"] ++ "run" :: "--async" :: ["-lm", "a.c"])
        Program.freshHost).1.status = 7 := by
  have asked : Request.ofArguments (["-v"] ++ "run" :: ["-lm", "a.c"]) =
      .execute (.run (.ofText "a.c") { file := some (.ofText "a.c"), libraries := ["m"] } false)
        1 := rfl
  have made : CompileArguments.sessionConfig
      { file := some (.ofText "a.c"), libraries := ["m"] } oneFile =
        .ok { mode := .execute, libraries := ["m"] } := rfl
  have ended : exitStatus (Program.runFile (Program.steady 0 7) oneFile.environment
      (.ofText "a.c") { mode := .execute, libraries := ["m"] } Program.freshHost).1 = 7 := by
    simp only [Program.runFile, Path.display_ofText]
    rfl
  have status := (run_of_ok (Program.steady 0 7) Program.freshHost asked made).1.trans ended
  have options : ∀ argument ∈ ["-v"], looksLikeOption argument = true := by decide
  have plainName : 0 ∉ (Path.ofText "a.c").bytes := by decide
  have plainSource : 0 ∉ Text.encode "int x;" := by decide
  have same (image : Nat) (context : Address) (state : Unit) (memory : Memory) :
      (Program.steady 0 7).invoke image
          (.addFile context ⟨(Path.ofText "a.c").bytes, plainName⟩) state memory =
        (Program.steady 0 7).invoke image
          (.compileString context ⟨Text.encode "int x;", plainSource⟩) state memory := rfl
  obtain ⟨⟨result, answer, made, other, -, -, -, agree, -⟩, -⟩ :=
    run_async_agrees (Program.steady 0 7) Program.freshHost options asked
      (Path.text?_ofText "a.c") plainName readText_oneFile plainSource same
  exact ⟨status, agree.symm.trans status⟩

end CompileSession.CommandLine
