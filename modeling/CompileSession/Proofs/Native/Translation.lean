import CompileSession.Proofs.Memory
import CompileSession.Proofs.Native.Script

/-!
# Bindings follow scripts

What a binding does with a sequence of calls is what their scripts say, one after the other: the
same native calls, the same answers, and the same library and memory afterwards.
-/

namespace CompileSession.Native

variable {ν : Type} {kind : AnswerKind}

/-- The native call that an entry tells of, if it tells of one. -/
def Exchange.ofEntry? : Entry → Option Exchange
  | .nativeCall call result _ => some ⟨call, result⟩
  | _ => none

/-- The native calls that a journal tells of. -/
def exchanges (journal : Journal) : List Exchange :=
  journal.filterMap Exchange.ofEntry?

/-- What native calls work on in a machine. -/
def plant (machine : Machine (Shared ν)) : Plant ν where
  shared := machine.shared
  memory := machine.memory

/-- Sets aside what a call does before it reaches the library: the copy of a symbol's text is
stored, and the diagnostics are taken. -/
def Plant.prepare (sink : Nat) (call : Call kind) (plant : Plant ν) : Plant ν :=
  match call with
  | .addSymbol _ (.text text) =>
    if 0 ∈ Text.encode text then plant
    else { plant with memory := (plant.memory.allocate (Text.encode text ++ [0]) 0).2 }
  | .takeDiagnostics =>
    { plant with
      shared := { plant.shared with sinks := plant.shared.sinks.modify sink fun _ => [] } }
  | _ => plant

namespace Binding

/-- The script that a call stands for. -/
def script (binding : Binding) (call : Call kind) (plant : Plant ν) : Script kind.Answer :=
  call.script binding.context plant.memory.next binding.relocated
    (plant.shared.sinks.getD binding.sink [])

/-- What a call amounts to: its answer, its native calls, and what is left behind. -/
def translate (code : ForeignCode ν) (binding : Binding) (call : Call kind) (plant : Plant ν) :
    kind.Answer × List Exchange × Plant ν :=
  (binding.script call plant).run code binding.library.image (plant.prepare binding.sink call)

/-- A binding after some native calls. -/
def note (binding : Binding) (made : List Exchange) : Binding :=
  { binding with relocated := binding.relocated || made.any Exchange.relocates }

/-- Answers calls one after another. -/
def answerAll (code : ForeignCode ν) :
    List ((kind : AnswerKind) × Call kind) → Binding → Machine (Shared ν) →
      Answered ν (List ((kind : AnswerKind) × kind.Answer))
  | [], binding, machine => ([], binding, machine)
  | ⟨kind, call⟩ :: rest, binding, machine =>
    let (answer, binding, machine) := Binding.answer code call binding machine
    let (answers, binding, machine) := answerAll code rest binding machine
    (⟨kind, answer⟩ :: answers, binding, machine)

/-- What calls amount to one after another. -/
def translateAll (code : ForeignCode ν) :
    List ((kind : AnswerKind) × Call kind) → Binding → Plant ν →
      List ((kind : AnswerKind) × kind.Answer) × List (List Exchange) × Plant ν
  | [], _, plant => ([], [], plant)
  | ⟨kind, call⟩ :: rest, binding, plant =>
    let (answer, made, plant) := binding.translate code call plant
    let (answers, more, plant) := translateAll code rest (binding.note made) plant
    (⟨kind, answer⟩ :: answers, made :: more, plant)

end Binding

@[simp] theorem exchanges_append (first second : Journal) :
    exchanges (first ++ second) = exchanges first ++ exchanges second :=
  List.filterMap_append

@[simp] theorem exchanges_log (machine : Machine (Shared ν)) (level : Log.Level)
    (message : String) (fields : List (String × Log.Value)) :
    exchanges (machine.log level message fields).journal = exchanges machine.journal := by
  simp [Machine.log, Machine.record, exchanges, Exchange.ofEntry?]

theorem plant_collect (machine : Machine (Shared ν)) (report : Report) :
    plant (collect machine report) =
      { plant machine with shared := machine.shared.receive report } := by
  obtain ⟨-, sink, message⟩ := report
  cases sink <;> cases message <;> rfl

theorem exchanges_collect (machine : Machine (Shared ν)) (report : Report) :
    exchanges (collect machine report).journal = exchanges machine.journal := by
  unfold collect
  split
  · exact exchanges_log ..
  · rfl

theorem plant_collectAll (reports : List Report) (machine : Machine (Shared ν)) :
    plant (reports.foldl collect machine) =
      { plant machine with shared := reports.foldl Shared.receive machine.shared } := by
  induction reports generalizing machine with
  | nil => rfl
  | cons report rest ih =>
      have first := plant_collect machine report
      simp only [plant, Plant.mk.injEq] at first
      rw [List.foldl_cons, List.foldl_cons, ih]
      simp only [plant, first.1, first.2]

theorem exchanges_collectAll (reports : List Report) (machine : Machine (Shared ν)) :
    exchanges (reports.foldl collect machine).journal = exchanges machine.journal := by
  induction reports generalizing machine with
  | nil => rfl
  | cons report rest ih => exact (ih _).trans (exchanges_collect machine report)

variable (code : ForeignCode ν)

/-- A native call does to the plant what it does there alone, and the journal tells of it. -/
theorem invoke_eq (library : Library) {result : ResultKind} (call : NativeCall result)
    (machine : Machine (Shared ν)) :
    (invoke code library call machine).1 =
        ((plant machine).perform code library.image call).1 ∧
      plant (invoke code library call machine).2 =
        ((plant machine).perform code library.image call).2 ∧
      exchanges (invoke code library call machine).2.journal =
        exchanges machine.journal ++ [⟨call, (invoke code library call machine).1⟩] := by
  refine ⟨rfl, ?_, ?_⟩
  · exact plant_collectAll ..
  · refine (exchanges_collectAll ..).trans ?_
    simp only [Machine.record, exchanges_append]
    rfl

theorem Binding.note_nil (binding : Binding) : binding.note [] = binding := by
  simp [note]

theorem Binding.note_note (binding : Binding) (first second : List Exchange) :
    (binding.note first).note second = binding.note (first ++ second) := by
  simp [note, Bool.or_assoc]

theorem Binding.note_quiet (binding : Binding) {exchange : Exchange}
    (quiet : exchange.relocates = false) : binding.note [exchange] = binding := by
  simp [note, quiet]

/-- What a binding has done is what a script says. -/
structure Follows {α : Type} (script : Script α) (binding : Binding) (before : Plant ν)
    (journal : Journal) (answered : Answered ν α) : Prop where
  answer : answered.1 = (script.run code binding.library.image before).1
  exchanges_eq : exchanges answered.2.2.journal =
    exchanges journal ++ (script.run code binding.library.image before).2.1
  binding_eq : answered.2.1 = binding.note (script.run code binding.library.image before).2.1
  plant_eq : plant answered.2.2 = (script.run code binding.library.image before).2.2

namespace Follows

variable {code} {α : Type} {binding : Binding} {machine : Machine (Shared ν)}

theorem done (value : α) :
    Follows code (.done value) binding (plant machine) machine.journal
      (value, binding, machine) where
  answer := rfl
  exchanges_eq := (List.append_nil _).symm
  binding_eq := binding.note_nil.symm
  plant_eq := rfl

theorem of_log {script : Script α} {answered : Answered ν α} (level : Log.Level)
    (message : String) (fields : List (String × Log.Value))
    (follows : Follows code script binding (plant (machine.log level message fields))
      (machine.log level message fields).journal answered) :
    Follows code script binding (plant machine) machine.journal answered where
  answer := follows.answer
  exchanges_eq := follows.exchanges_eq.trans (congrArg (· ++ _) (exchanges_log ..))
  binding_eq := follows.binding_eq
  plant_eq := follows.plant_eq

theorem log_done (value : α) (level : Log.Level) (message : String)
    (fields : List (String × Log.Value)) :
    Follows code (.done value) binding (plant machine) machine.journal
      (value, binding, machine.log level message fields) :=
  of_log level message fields (done value)

theorem call {result : ResultKind} {native : NativeCall result} {next : result.Result → Script α}
    {answered : Answered ν α}
    (rest : Follows code (next (invoke code binding.library native machine).1)
      (binding.note [⟨native, (invoke code binding.library native machine).1⟩])
      (plant (invoke code binding.library native machine).2)
      (invoke code binding.library native machine).2.journal answered) :
    Follows code (.call native next) binding (plant machine) machine.journal answered := by
  obtain ⟨result_eq, plant_eq, journal_eq⟩ := invoke_eq code binding.library native machine
  obtain ⟨answer, exchanges_eq, binding_eq, rest_eq⟩ := rest
  rw [plant_eq, result_eq] at answer exchanges_eq binding_eq rest_eq
  rw [journal_eq, result_eq, List.append_assoc] at exchanges_eq
  rw [Binding.note_note] at binding_eq
  exact ⟨answer, exchanges_eq, binding_eq, rest_eq⟩

theorem single {result : ResultKind} {native : NativeCall result} (read : result.Result → α)
    (quiet : ∀ given, (⟨native, given⟩ : Exchange).relocates = false) :
    Follows code (.call native fun given => .done (read given)) binding (plant machine)
      machine.journal
      (read (invoke code binding.library native machine).1, binding,
        (invoke code binding.library native machine).2) := by
  apply call
  rw [Binding.note_quiet _ (quiet _)]
  exact done _

theorem status {native : NativeCall .code}
    (quiet : ∀ given, (⟨native, given⟩ : Exchange).relocates = false) :
    Follows code (.status native) binding (plant machine) machine.journal
      (Binding.callCode code native binding machine) :=
  single Status.mk quiet

theorem silent (answer : α) {native : NativeCall .nothing}
    (quiet : ∀ given, (⟨native, given⟩ : Exchange).relocates = false) :
    Follows code (.silent answer native) binding (plant machine) machine.journal
      (answer, binding, (invoke code binding.library native machine).2) :=
  single (fun _ => answer) quiet

theorem withText {operation text : String} {script : CText → Script Status}
    {use : CText → Binding → Machine (Shared ν) → Answered ν Status}
    (uses : ∀ bytes, Follows code (script bytes) binding (plant machine) machine.journal
      (use bytes binding machine)) :
    Follows code (.onText .failed text script) binding (plant machine) machine.journal
      (Binding.withText operation text use binding machine) := by
  unfold Script.onText Binding.withText CText.ofText
  by_cases zero : 0 ∈ Text.encode text
  · simp only [dif_pos zero]
    exact log_done ..
  · simp only [dif_neg zero]
    exact uses _

theorem textCode {operation text : String} {call : CText → NativeCall .code}
    (quiet : ∀ bytes given, (⟨call bytes, given⟩ : Exchange).relocates = false) :
    Follows code (.onText .failed text fun bytes => .status (call bytes)) binding (plant machine)
      machine.journal (Binding.textCode code operation text call binding machine) := by
  apply withText
  intro bytes
  exact status (quiet bytes)

theorem textNothing {operation text : String} {call : CText → NativeCall .nothing}
    (quiet : ∀ bytes given, (⟨call bytes, given⟩ : Exchange).relocates = false) :
    Follows code (.onText .failed text fun bytes => .silent .ok (call bytes)) binding
      (plant machine) machine.journal
      (Binding.textNothing code operation text call binding machine) := by
  apply withText
  intro bytes
  exact silent Status.ok (quiet bytes)

theorem defineSymbol (name value : String) :
    Follows code (.onText () name fun name => .onText () value fun value =>
        .silent () (.defineSymbol binding.context name value))
      binding (plant machine) machine.journal
      (Binding.defineSymbol code name value binding machine) := by
  unfold Script.onText Binding.defineSymbol CText.ofText
  by_cases nameZero : 0 ∈ Text.encode name
  · simp only [dif_pos nameZero]
    exact log_done ..
  · by_cases valueZero : 0 ∈ Text.encode value
    · simp only [dif_neg nameZero, dif_pos valueZero]
      exact log_done ..
    · simp only [dif_neg nameZero, dif_neg valueZero]
      exact silent () (fun _ => rfl)

theorem undefineSymbol (name : String) :
    Follows code (.onText () name fun name => .silent () (.undefineSymbol binding.context name))
      binding (plant machine) machine.journal
      (Binding.undefineSymbol code name binding machine) := by
  unfold Script.onText Binding.undefineSymbol CText.ofText
  by_cases zero : 0 ∈ Text.encode name
  · simp only [dif_pos zero]
    exact log_done ..
  · simp only [dif_neg zero]
    exact silent () (fun _ => rfl)

theorem getSymbol (name : String) :
    Follows code (.onText none name fun name => .lookup (.getSymbol binding.context name))
      binding (plant machine) machine.journal
      (Binding.getSymbol code name binding machine) := by
  unfold Script.onText Binding.getSymbol CText.ofText
  by_cases zero : 0 ∈ Text.encode name
  · simp only [dif_pos zero]
    exact done none
  · simp only [dif_neg zero]
    apply call
    rw [Binding.note_quiet _ rfl]
    exact done _

theorem relocate_eq :
    Binding.relocate code binding machine =
      (⟨(invoke code binding.library (.relocate binding.context NativeCall.anyPlace) machine).1⟩,
        binding.note [⟨.relocate binding.context NativeCall.anyPlace,
          (invoke code binding.library (.relocate binding.context NativeCall.anyPlace)
            machine).1⟩],
        (invoke code binding.library (.relocate binding.context NativeCall.anyPlace)
          machine).2) := by
  simp [Binding.relocate, Binding.callCode, Binding.note, Exchange.relocates]

theorem relocate :
    Follows code (.status (.relocate binding.context NativeCall.anyPlace)) binding (plant machine)
      machine.journal (Binding.relocate code binding machine) := by
  rw [relocate_eq]
  apply call
  exact done _

theorem callMain {context : Address} (own : binding.context = context) (argc : Int32) :
    Follows code (.main context argc) binding (plant machine) machine.journal
      (Binding.callMain code argc binding machine) := by
  subst context
  unfold Script.main Script.onText Binding.callMain Binding.getSymbol CText.ofText
  by_cases zero : 0 ∈ Text.encode "main"
  · simp only [dif_pos zero]
    exact log_done ..
  · simp only [dif_neg zero]
    apply call
    rw [Binding.note_quiet _ rfl]
    split
    case h_1 missing =>
      simp only [missing]
      exact log_done ..
    case h_2 handle found =>
      simp only [found]
      refine of_log _ _ _ (status ?_)
      intro given
      rfl

theorem run (argc : Int32) :
    Follows code (.program binding.context binding.relocated argc) binding (plant machine)
      machine.journal (Binding.run code argc binding machine) := by
  unfold Script.program Binding.run
  by_cases already : binding.relocated = true
  · rw [if_pos already, if_pos already]
    exact callMain rfl argc
  · rw [if_neg already, if_neg already]
    apply call
    rw [relocate_eq]
    dsimp only
    split
    case isTrue failed => exact done _
    case isFalse succeeded =>
      refine callMain ?_ argc
      rfl

end Follows

/-- What a binding does with a call is what the call's script says. -/
theorem follows_answer (call : Call kind) (binding : Binding) (machine : Machine (Shared ν)) :
    Follows code (binding.script call (plant machine)) binding
      ((plant machine).prepare binding.sink call) machine.journal
      (Binding.answer code call binding machine) := by
  cases call with
  | setOutputType mode =>
      refine Follows.of_log _ _ _ (Follows.status ?_)
      intro given
      rfl
  | setLibPath path => exact Follows.textNothing (fun _ _ => rfl)
  | setOptions options => exact Follows.textNothing (fun _ _ => rfl)
  | defineSymbol name value => exact Follows.defineSymbol name value
  | undefineSymbol name => exact Follows.undefineSymbol name
  | addIncludePath path => exact Follows.textCode (fun _ _ => rfl)
  | addSysincludePath path => exact Follows.textCode (fun _ _ => rfl)
  | addLibrary name => exact Follows.textCode (fun _ _ => rfl)
  | addLibraryPath path => exact Follows.textCode (fun _ _ => rfl)
  | addFile path => exact Follows.textCode (fun _ _ => rfl)
  | compileString source => exact Follows.textCode (fun _ _ => rfl)
  | addSymbol name value =>
      cases value with
      | address address =>
          simp only [Binding.script, Call.script, Plant.prepare, Binding.answer, Binding.addSymbol]
          apply Follows.textCode
          intro bytes given
          rfl
      | text text =>
          simp only [Binding.script, Call.script, Plant.prepare, Binding.answer, Binding.addSymbol,
            CText.ofText, Script.onText]
          by_cases zero : 0 ∈ Text.encode text
          · simp only [dif_pos zero, if_pos zero]
            exact Follows.log_done ..
          · let stored : Machine (Shared ν) := { machine with
              memory := (machine.memory.allocate (Text.encode text ++ [0]) 0).2 }
            simp only [dif_neg zero, if_neg zero]
            change Follows code (.onText .failed name fun bytes =>
                .status (.addSymbol binding.context bytes machine.memory.next))
              binding (plant stored) stored.journal
              (Binding.textCode code _ _ (.addSymbol binding.context · machine.memory.next)
                binding stored)
            apply Follows.textCode
            intro bytes given
            rfl
  | relocate => exact Follows.relocate
  | getSymbol name => exact Follows.getSymbol name
  | run argc => exact Follows.run argc
  | takeDiagnostics =>
      let taken := changeSinks (·.modify binding.sink fun _ => []) machine
      change Follows code _ binding (plant taken) taken.journal (_, binding, taken)
      exact Follows.done _

theorem note_append (binding : Binding) (first second : List Exchange) :
    binding.note (first ++ second) = (binding.note first).note second :=
  (binding.note_note first second).symm

/-- A binding answers calls one after another as their scripts say. -/
theorem answerAll_eq (calls : List ((kind : AnswerKind) × Call kind)) (binding : Binding)
    (machine : Machine (Shared ν)) :
    (Binding.answerAll code calls binding machine).1 =
        (Binding.translateAll code calls binding (plant machine)).1 ∧
      exchanges (Binding.answerAll code calls binding machine).2.2.journal =
        exchanges machine.journal ++
          (Binding.translateAll code calls binding (plant machine)).2.1.flatten ∧
      (Binding.answerAll code calls binding machine).2.1 =
        binding.note (Binding.translateAll code calls binding (plant machine)).2.1.flatten ∧
      plant (Binding.answerAll code calls binding machine).2.2 =
        (Binding.translateAll code calls binding (plant machine)).2.2 := by
  induction calls generalizing binding machine with
  | nil => exact ⟨rfl, (List.append_nil _).symm, binding.note_nil.symm, rfl⟩
  | cons asked rest ih =>
      obtain ⟨kind, call⟩ := asked
      obtain ⟨answer, exchanges_eq, binding_eq, plant_eq⟩ :=
        follows_answer code call binding machine
      have later := ih (Binding.answer code call binding machine).2.1
        (Binding.answer code call binding machine).2.2
      rw [binding_eq, plant_eq, exchanges_eq] at later
      obtain ⟨answers, more, bindings, plants⟩ := later
      refine ⟨?_, ?_, ?_, ?_⟩
      · simp only [Binding.answerAll, Binding.translateAll, Binding.translate]
        rw [answer, binding_eq, answers]
      · simp only [Binding.answerAll, Binding.translateAll, Binding.translate, List.flatten_cons]
        rw [binding_eq, more, List.append_assoc]
      · simp only [Binding.answerAll, Binding.translateAll, Binding.translate, List.flatten_cons]
        rw [binding_eq, bindings, note_append]
      · simp only [Binding.answerAll, Binding.translateAll, Binding.translate]
        rw [binding_eq, plants]

namespace Binding

variable {code} (binding : Binding) (before : Plant ν)

/-- A call with a zero byte in one of its texts changes nothing, unless it registers a text under a
name: if the zero byte is in the name, the copy of the text is not taken back. -/
theorem prepare_of_not_plain {call : Call kind} (zero : ¬ call.Plain) (sink : Nat) :
    (call.symbolText? = none → before.prepare sink call = before) ∧
      ∀ text, call.symbolText? = some text → before.prepare sink call =
        if 0 ∈ Text.encode text then before
        else { before with memory := (before.memory.allocate (Text.encode text ++ [0]) 0).2 } := by
  cases call with
  | addSymbol name value =>
      cases value with
      | address address => exact ⟨fun _ => rfl, nofun⟩
      | text text =>
          refine ⟨nofun, ?_⟩
          rintro _ ⟨⟩
          rfl
  | takeDiagnostics =>
      apply (zero _).elim
      intro text member
      cases member
  | _ => exact ⟨fun _ => rfl, nofun⟩

theorem translate_of_not_plain {call : Call kind} (zero : ¬ call.Plain) :
    binding.translate code call before = (kind.refusal, [], before.prepare binding.sink call) := by
  rw [translate, script, Call.script_of_not_plain zero]
  rfl

theorem translate_of_plain {call : Call kind} (plain : call.Plain) {point : EntryPoint}
    (single : call.entryPoint? = some point) :
    ∃ (result : ResultKind) (native : NativeCall result) (given : result.Result) (after : Plant ν),
      (before.prepare binding.sink call).perform code binding.library.image native =
        (given, after) ∧
      native.name = point.name ∧ native.context? = some binding.context ∧
      native.texts = call.passedTexts.map Text.encode ∧
      binding.translate code call before = (kind.read given, [⟨native, given⟩], after) := by
  obtain ⟨result, native, script_eq, name, context, texts⟩ :=
    Call.script_of_plain plain single
  refine ⟨result, native, _, _, rfl, name, context, texts, ?_⟩
  rw [translate, script, script_eq]
  rfl

theorem translate_addSymbol_address {name : String} (plain : 0 ∉ Text.encode name)
    (address : Address) :
    ∃ given after, binding.translate code (.addSymbol name (.address address)) before =
      (⟨given⟩, [⟨.addSymbol binding.context ⟨Text.encode name, plain⟩ address, given⟩],
        after) := by
  simp only [translate, script, Call.script, Script.onText, dif_neg plain]
  exact ⟨_, _, rfl⟩

/-- A symbol that is a text is passed on with the address of a copy that ends with a zero byte. -/
theorem translate_addSymbol_text {name text : String} (nameZero : 0 ∉ Text.encode name)
    (textZero : 0 ∉ Text.encode text) (short : (Text.encode text).length < UInt64.size) :
    (before.prepare binding.sink (.addSymbol name (.text text))).memory.read before.memory.next
        ((Text.encode text).length + 1) = Text.encode text ++ [0] ∧
      ∃ given after, binding.translate code (.addSymbol name (.text text)) before =
        (⟨given⟩,
          [⟨.addSymbol binding.context ⟨Text.encode name, nameZero⟩ before.memory.next, given⟩],
          after) := by
  constructor
  · have few : (Text.encode text ++ [0]).length ≤ UInt64.size := by
      rw [List.length_append]
      exact short
    have stored := before.memory.read_allocate few 0
    rw [List.length_append] at stored
    rw [Plant.prepare, if_neg textZero]
    exact stored
  · simp only [translate, script, Call.script, Script.onText, dif_neg nameZero, dif_neg textZero]
    exact ⟨_, _, rfl⟩

/-- What an engine has done to a machine that refuses a call for a zero byte in a text. -/
inductive Refuses (machine : Machine (Shared ν)) :
    {kind : AnswerKind} → Call kind → Machine (Shared ν) → Prop where
  /-- A name with a zero byte names nothing, and that is all. -/
  | lookUp {name : String} : Refuses machine (.getSymbol name) machine
  /-- A symbol's text was copied before its name was looked at. -/
  | keepCopy {name text message : String} :
      0 ∉ Text.encode text → 0 ∈ Text.encode name →
      Refuses machine (.addSymbol name (.text text)) (Machine.log
        { machine with memory := (machine.memory.allocate (Text.encode text ++ [0]) 0).2 }
        .warn message)
  | warn {kind : AnswerKind} {call : Call kind} {message : String} :
      kind ≠ .lookup → (∀ text, call.symbolText? = some text → 0 ∈ Text.encode text) →
      Refuses machine call (machine.log .warn message)

variable (machine : Machine (Shared ν))

variable {machine} in
theorem Refuses.of_symbolText?_eq_none {call : Call kind} {message : String}
    (others : kind ≠ .lookup) (textless : call.symbolText? = none) :
    Refuses machine call (machine.log .warn message) := by
  refine .warn others ?_
  intro text given
  rw [textless] at given
  cases given

/-- A text with a zero byte is not passed on. -/
theorem withText_of_zero {operation text : String}
    {use : CText → Binding → Machine (Shared ν) → Answered ν Status}
    (zero : 0 ∈ Text.encode text) :
    ∃ message, withText operation text use binding machine =
      (.failed, binding, machine.log .warn message) := by
  simp only [withText, CText.ofText, dif_pos zero]
  exact ⟨_, rfl⟩

theorem textCode_of_zero {operation text : String} {call : CText → NativeCall .code}
    (zero : 0 ∈ Text.encode text) :
    ∃ message, textCode code operation text call binding machine =
      (.failed, binding, machine.log .warn message) :=
  binding.withText_of_zero machine zero

theorem textNothing_of_zero {operation text : String} {call : CText → NativeCall .nothing}
    (zero : 0 ∈ Text.encode text) :
    ∃ message, textNothing code operation text call binding machine =
      (.failed, binding, machine.log .warn message) :=
  binding.withText_of_zero machine zero

theorem defineSymbol_of_not_plain {name value : String}
    (zero : ¬ (Call.defineSymbol name value).Plain) :
    ∃ message, defineSymbol code name value binding machine =
      ((), binding, machine.log .warn message) := by
  simp only [defineSymbol, CText.ofText]
  by_cases inName : 0 ∈ Text.encode name
  · simp only [dif_pos inName]
    exact ⟨_, rfl⟩
  · have inValue : 0 ∈ Text.encode value := by
      simpa [Call.Plain, Call.texts, inName] using zero
    simp only [dif_neg inName, dif_pos inValue]
    exact ⟨_, rfl⟩

theorem addSymbol_of_not_plain {name : String} {value : SymbolValue}
    (zero : ¬ (Call.addSymbol name value).Plain) :
    ∃ after, addSymbol code name value binding machine = (.failed, binding, after) ∧
      Refuses machine (.addSymbol name value) after := by
  cases value with
  | address address =>
      have found : 0 ∈ Text.encode name := by simpa [Call.Plain, Call.texts] using zero
      obtain ⟨message, refused⟩ := binding.textCode_of_zero machine found
      exact ⟨_, refused, .of_symbolText?_eq_none (by decide) rfl⟩
  | text text =>
      simp only [addSymbol, CText.ofText]
      by_cases inText : 0 ∈ Text.encode text
      · simp only [dif_pos inText]
        refine ⟨_, rfl, .warn (by decide) ?_⟩
        rintro _ ⟨⟩
        exact inText
      · have found : 0 ∈ Text.encode name := by
          simpa [Call.Plain, Call.texts, inText] using zero
        simp only [dif_neg inText]
        obtain ⟨message, refused⟩ := binding.textCode_of_zero
          { machine with memory := (machine.memory.allocate (Text.encode text ++ [0]) 0).2 } found
        exact ⟨_, refused, .keepCopy inText found⟩

/-- A call with a zero byte in one of its texts is refused: it makes no native call and leaves the
engine as it is. -/
theorem answer_of_not_plain {call : Call kind} (zero : ¬ call.Plain) :
    ∃ after, answer code call binding machine = (kind.refusal, binding, after) ∧
      Refuses machine call after := by
  obtain ⟨text, member, found⟩ : ∃ text ∈ call.texts, 0 ∈ Text.encode text := by
    simpa [Call.Plain] using zero
  cases call with
  | setOutputType | relocate | run | takeDiagnostics => cases member
  | addSymbol name value => exact binding.addSymbol_of_not_plain machine zero
  | defineSymbol name value =>
      obtain ⟨message, refused⟩ := binding.defineSymbol_of_not_plain machine zero
      exact ⟨_, refused, .of_symbolText?_eq_none (by decide) rfl⟩
  | undefineSymbol name =>
      cases List.mem_singleton.mp member
      refine ⟨machine.log .warn "undefine_symbol: argument contains a NUL byte", ?_,
        .of_symbolText?_eq_none (by decide) rfl⟩
      simp only [answer, undefineSymbol, CText.ofText, dif_pos found]
  | getSymbol name =>
      cases List.mem_singleton.mp member
      refine ⟨machine, ?_, .lookUp⟩
      simp only [answer, getSymbol, CText.ofText, dif_pos found]
      rfl
  | setLibPath | setOptions =>
      cases List.mem_singleton.mp member
      obtain ⟨message, refused⟩ := binding.textNothing_of_zero machine found
      exact ⟨_, refused, .of_symbolText?_eq_none (by decide) rfl⟩
  | addIncludePath | addSysincludePath | addLibrary | addLibraryPath | addFile | compileString =>
      cases List.mem_singleton.mp member
      obtain ⟨message, refused⟩ := binding.textCode_of_zero machine found
      exact ⟨_, refused, .of_symbolText?_eq_none (by decide) rfl⟩

end Binding

/-- The native calls of a sequence of calls are those of each call's script, one after the other.
A call with a zero byte in a text makes none and leaves nothing behind but a warning, and the copy
of a symbol's text if the zero byte is in its name.  Without a zero byte a call makes one native
call to its own context, with the bytes of its texts, and answers what that gives.  Running a
program takes up to three. -/
theorem calls_translated (calls : List ((kind : AnswerKind) × Call kind)) (binding : Binding)
    (machine : Machine (Shared ν)) :
    ((Binding.answerAll code calls binding machine).1 =
        (Binding.translateAll code calls binding (plant machine)).1 ∧
      exchanges (Binding.answerAll code calls binding machine).2.2.journal =
        exchanges machine.journal ++
          (Binding.translateAll code calls binding (plant machine)).2.1.flatten ∧
      (Binding.answerAll code calls binding machine).2.1 =
        binding.note (Binding.translateAll code calls binding (plant machine)).2.1.flatten ∧
      plant (Binding.answerAll code calls binding machine).2.2 =
        (Binding.translateAll code calls binding (plant machine)).2.2) ∧
    ∀ (current : Binding) (before : Plant ν),
      (∀ {kind : AnswerKind} (call : Call kind), ¬ call.Plain →
        current.translate code call before =
          (kind.refusal, [], before.prepare current.sink call) ∧
        (call.symbolText? = none → before.prepare current.sink call = before) ∧
        (∀ text, call.symbolText? = some text → before.prepare current.sink call =
          if 0 ∈ Text.encode text then before
          else { before with memory := (before.memory.allocate (Text.encode text ++ [0]) 0).2 }) ∧
        ∀ machine : Machine (Shared ν), ∃ after,
          Binding.answer code call current machine = (kind.refusal, current, after) ∧
            Binding.Refuses machine call after) ∧
      (∀ {kind : AnswerKind} (call : Call kind), call.Plain →
        ∀ point, call.entryPoint? = some point →
          ∃ (result : ResultKind) (native : NativeCall result) (given : result.Result)
            (after : Plant ν),
            (before.prepare current.sink call).perform code current.library.image native =
              (given, after) ∧
            native.name = point.name ∧ native.context? = some current.context ∧
            native.texts = call.passedTexts.map Text.encode ∧
            current.translate code call before = (kind.read given, [⟨native, given⟩], after)) ∧
      (∀ name address (nameZero : 0 ∉ Text.encode name), ∃ given after,
        current.translate code (.addSymbol name (.address address)) before =
          (⟨given⟩, [⟨.addSymbol current.context ⟨Text.encode name, nameZero⟩ address, given⟩],
            after)) ∧
      (∀ name text (nameZero : 0 ∉ Text.encode name), 0 ∉ Text.encode text →
        (Text.encode text).length < UInt64.size →
        (before.prepare current.sink (.addSymbol name (.text text))).memory.read
            before.memory.next ((Text.encode text).length + 1) = Text.encode text ++ [0] ∧
        ∃ given after, current.translate code (.addSymbol name (.text text)) before =
          (⟨given⟩,
            [⟨.addSymbol current.context ⟨Text.encode name, nameZero⟩ before.memory.next, given⟩],
            after)) ∧
      (∀ argc, Ran current.context argc current.relocated
        (current.translate code (.run argc) before).2.1
        (current.translate code (.run argc) before).1) ∧
      (current.translate code .takeDiagnostics before).2.1 = [] := by
  refine ⟨answerAll_eq code calls binding machine, ?_⟩
  intro current before
  refine ⟨?_, ?_, ?_, ?_, ?_, rfl⟩
  · intro kind call zero
    obtain ⟨untouched, kept⟩ := Binding.prepare_of_not_plain before zero current.sink
    exact ⟨current.translate_of_not_plain before zero, untouched, kept,
      fun machine => current.answer_of_not_plain machine zero⟩
  · intro kind call plain point single
    exact current.translate_of_plain before plain single
  · intro name address nameZero
    exact current.translate_addSymbol_address before nameZero address
  · intro name text nameZero textZero short
    exact current.translate_addSymbol_text before nameZero textZero short
  · intro argc
    exact Script.ran_program code current.library.image _ current.context current.relocated argc

/-- A library that takes everything. -/
def obliging : ForeignCode Unit where
  openImage _ _ := .ok 0
  missing? _ _ _ := none
  invoke {kind} _ _ state memory :=
    { result :=
        match kind with
        | .address => (16 : Address)
        | .code => (0 : Int32)
        | .nothing => ()
      state, memory, reports := [] }

/-- Registering a text under a name with a zero byte fails without a native call, but the text is in
memory from then on, and there is a warning. -/
theorem refused_symbol_kept :
    let binding : Binding := { library := ⟨"libtcc.so", 0⟩, context := 16, sink := 0 }
    let machine : Machine (Shared Unit) := { memory := .zeroed 32, shared := { foreign := () } }
    let call := Call.addSymbol "a\x00b" (.text "hi")
    let answered := Binding.answer obliging call binding machine
    ¬ call.Plain ∧ answered.1 = .failed ∧ exchanges answered.2.2.journal = [] ∧
      machine.memory.read 32 3 = [0, 0, 0] ∧
      answered.2.2.memory.read 32 3 = [0x68, 0x69, 0] ∧
      machine.memory.next = 32 ∧ answered.2.2.memory.next = 48 ∧
      answered.2.2.journal.events.map Log.Event.message =
        ["add_symbol: argument contains a NUL byte at 1"] := by
  intro binding machine call answered
  refine ⟨?_, rfl, rfl, rfl, rfl, rfl, rfl, ?_⟩
  · intro plain
    exact plain "a\x00b" List.mem_cons_self (by decide)
  · decide +kernel

end CompileSession.Native
