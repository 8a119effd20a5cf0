import CompileSession.Native.Binding

/-!
# Calls as scripts

A script says which native calls are to be made, each depending on what the ones before have given.
Every call to an engine stands for a script: one native call, unless a text holds a zero byte, and
up to three for a run.
-/

namespace CompileSession

namespace Native

/-- A native call and what it has given. -/
structure Exchange where
  {kind : ResultKind}
  call : NativeCall kind
  result : kind.Result

/-- Whether a relocation has succeeded. -/
def Exchange.relocates : Exchange → Bool
  | ⟨.relocate _ _, code⟩ => (Status.mk code).isOk
  | _ => false

/-- What native calls work on. -/
structure Plant (ν : Type) where
  shared : Shared ν
  memory : Memory

/-- Puts a reported message into its sink, up to its first zero byte and with what is not text
replaced; reports without a sink or a message are ignored. -/
def Shared.receive {ν : Type} (shared : Shared ν) (report : Report) : Shared ν :=
  match report.sink, report.message with
  | some sink, some message =>
    let text := Text.decodeLossy (message.takeWhile (· ≠ 0))
    { shared with sinks := shared.sinks.modify sink (· ++ [text]) }
  | _, _ => shared

/-- Makes a native call. -/
def Plant.perform {ν : Type} (code : ForeignCode ν) (image : Nat) {kind : ResultKind}
    (call : NativeCall kind) (plant : Plant ν) : kind.Result × Plant ν :=
  let returned := code.invoke image call plant.shared.foreign plant.memory
  let shared := { plant.shared with foreign := returned.state }
  (returned.result,
    { shared := returned.reports.foldl Shared.receive shared, memory := returned.memory })

/-- Native calls to make, each depending on what the ones before have given. -/
inductive Script (α : Type) where
  | done (value : α)
  | call {kind : ResultKind} (call : NativeCall kind) (next : kind.Result → Script α)

namespace Script

variable {ν α : Type}

/-- Follows a script: what it gives in the end, which native calls are made, and what they leave
behind. -/
def run (code : ForeignCode ν) (image : Nat) : Script α → Plant ν → α × List Exchange × Plant ν
  | .done value, plant => (value, [], plant)
  | .call native next, plant =>
    let (result, plant) := plant.perform code image native
    let (value, exchanges, plant) := (next result).run code image plant
    (value, ⟨native, result⟩ :: exchanges, plant)

/-- A native call whose code is the answer. -/
def status (native : NativeCall .code) : Script Status :=
  .call native fun code => .done ⟨code⟩

/-- A native call that gives nothing. -/
def silent (answer : α) (native : NativeCall .nothing) : Script α :=
  .call native fun _ => .done answer

/-- A native call that gives an address, which may be zero for none. -/
def lookup (native : NativeCall .address) : Script (Option SymbolHandle) :=
  .call native fun address => .done (SymbolHandle.ofAddress? address)

/-- Passes on the bytes of a text, unless there is a zero among them. -/
def onText (refusal : α) (text : String) (use : CText → Script α) : Script α :=
  if zero : 0 ∈ Text.encode text then .done refusal else use ⟨Text.encode text, zero⟩

/-- Looks up the main function and calls it. -/
def main (context : Address) (argc : Int32) : Script Status :=
  onText .failed "main" fun name => .call (.getSymbol context name) fun address =>
    match SymbolHandle.ofAddress? address with
    | none => .done .failed
    | some handle => status (.main handle.address argc)

/-- Runs a program, which is relocated first unless it is already. -/
def program (context : Address) (relocated : Bool) (argc : Int32) : Script Status :=
  if relocated then main context argc
  else .call (.relocate context NativeCall.anyPlace) fun code =>
    if (Status.mk code).isErr then .done ⟨code⟩ else main context argc

end Script

end Native

/-- What is answered instead of calling a library. -/
def AnswerKind.refusal : (kind : AnswerKind) → kind.Answer
  | .status => .failed
  | .done => ()
  | .lookup => none
  | .messages => []

/-- What is answered when a native call has given a result. -/
def AnswerKind.read : (kind : AnswerKind) → {result : Native.ResultKind} →
    result.Result → kind.Answer
  | .status, .code, code => ⟨code⟩
  | .status, .nothing, _ => .ok
  | .lookup, .address, address => SymbolHandle.ofAddress? address
  | kind, _, _ => kind.refusal

/-- The bytes of the texts that are passed with a native call. -/
def Native.NativeCall.texts {kind : Native.ResultKind} :
    Native.NativeCall kind → List (List UInt8)
  | .setLibPath _ text | .setOptions _ text | .undefineSymbol _ text | .addIncludePath _ text
  | .addSysincludePath _ text | .addLibrary _ text | .addLibraryPath _ text | .addFile _ text
  | .compileString _ text | .getSymbol _ text | .addSymbol _ text _ => [text.bytes]
  | .defineSymbol _ name value => [name.bytes, value.bytes]
  | .new | .setErrorFunc _ _ | .setOutputType _ _ | .relocate _ _ | .main _ _ => []

namespace Call

open Native

/-- The one function of the library that a call is for; running a program takes several, and taking
the diagnostics takes none. -/
def entryPoint? {kind : AnswerKind} : Call kind → Option EntryPoint
  | .setOutputType _ => some .setOutputType
  | .setLibPath _ => some .setLibPath
  | .setOptions _ => some .setOptions
  | .defineSymbol _ _ => some .defineSymbol
  | .undefineSymbol _ => some .undefineSymbol
  | .addIncludePath _ => some .addIncludePath
  | .addSysincludePath _ => some .addSysincludePath
  | .addLibrary _ => some .addLibrary
  | .addLibraryPath _ => some .addLibraryPath
  | .addFile _ => some .addFile
  | .compileString _ => some .compileString
  | .addSymbol _ _ => some .addSymbol
  | .relocate => some .relocate
  | .getSymbol _ => some .getSymbol
  | .run _ | .takeDiagnostics => none

/-- The texts among a call's arguments. -/
def texts {kind : AnswerKind} : Call kind → List String
  | .setLibPath text | .setOptions text | .undefineSymbol text | .addIncludePath text
  | .addSysincludePath text | .addLibrary text | .addLibraryPath text | .addFile text
  | .compileString text | .getSymbol text | .addSymbol text (.address _) => [text]
  | .defineSymbol name value | .addSymbol name (.text value) => [name, value]
  | .setOutputType _ | .relocate | .run _ | .takeDiagnostics => []

/-- The texts that a library takes as they are; that of a symbol's value it finds in memory. -/
def passedTexts {kind : AnswerKind} : Call kind → List String
  | .addSymbol name (.text _) => [name]
  | call => call.texts

/-- The text that a call registers as a symbol, if it registers one. -/
def symbolText? {kind : AnswerKind} : Call kind → Option String
  | .addSymbol _ (.text text) => some text
  | _ => none

/-- No text among the arguments holds a zero byte. -/
def Plain {kind : AnswerKind} (call : Call kind) : Prop :=
  ∀ text ∈ call.texts, 0 ∉ Text.encode text

/-- What a call stands for, given its context, the place of the copy of a symbol's text, whether a
relocation has succeeded before, and the messages that were reported. -/
def script (context copy : Address) (relocated : Bool) (messages : List String) :
    {kind : AnswerKind} → Call kind → Script kind.Answer
  | _, .setOutputType mode => .status (.setOutputType context mode.raw)
  | _, .setLibPath path =>
    .onText .failed path fun path => .silent .ok (.setLibPath context path)
  | _, .setOptions options =>
    .onText .failed options fun options => .silent .ok (.setOptions context options)
  | _, .defineSymbol name value =>
    .onText () name fun name => .onText () value fun value =>
      .silent () (.defineSymbol context name value)
  | _, .undefineSymbol name => .onText () name fun name => .silent () (.undefineSymbol context name)
  | _, .addIncludePath path =>
    .onText .failed path fun path => .status (.addIncludePath context path)
  | _, .addSysincludePath path =>
    .onText .failed path fun path => .status (.addSysincludePath context path)
  | _, .addLibrary name => .onText .failed name fun name => .status (.addLibrary context name)
  | _, .addLibraryPath path =>
    .onText .failed path fun path => .status (.addLibraryPath context path)
  | _, .addFile path => .onText .failed path fun path => .status (.addFile context path)
  | _, .compileString source =>
    .onText .failed source fun source => .status (.compileString context source)
  | _, .addSymbol name (.address address) =>
    .onText .failed name fun name => .status (.addSymbol context name address)
  | _, .addSymbol name (.text text) =>
    .onText .failed text fun _ => .onText .failed name fun name =>
      .status (.addSymbol context name copy)
  | _, .relocate => .status (.relocate context NativeCall.anyPlace)
  | _, .getSymbol name => .onText none name fun name => .lookup (.getSymbol context name)
  | _, .run argc => .program context relocated argc
  | _, .takeDiagnostics => .done messages

variable {kind : AnswerKind} {call : Call kind} {context copy : Address} {relocated : Bool}
  {messages : List String}

/-- A zero byte in any text keeps a call from reaching the library. -/
theorem script_of_not_plain (zero : ¬ call.Plain) :
    call.script context copy relocated messages = .done kind.refusal := by
  have some : ∃ text ∈ call.texts, 0 ∈ Text.encode text := by
    simpa [Plain] using zero
  obtain ⟨text, member, found⟩ := some
  cases call with
  | defineSymbol name value =>
      simp only [script, Script.onText]
      split
      · rfl
      · rcases List.mem_cons.mp member with rfl | last
        · contradiction
        · rw [List.mem_singleton.mp last] at found
          exact dif_pos found
  | addSymbol name value =>
      cases value with
      | address address =>
          cases List.mem_singleton.mp member
          simp only [script, Script.onText, dif_pos found]
          rfl
      | text value =>
          simp only [script, Script.onText]
          split
          · rfl
          · rcases List.mem_cons.mp member with rfl | last
            · exact dif_pos found
            · rw [List.mem_singleton.mp last] at found
              contradiction
  | setOutputType | relocate | run | takeDiagnostics => cases member
  | setLibPath | setOptions | undefineSymbol | addIncludePath | addSysincludePath | addLibrary
  | addLibraryPath | addFile | compileString | getSymbol =>
      cases List.mem_singleton.mp member
      simp only [script, Script.onText, dif_pos found, AnswerKind.refusal]

/-- Without zero bytes a call becomes one native call, to its own context and with the bytes of its
texts, and its answer is what that gives. -/
theorem script_of_plain (plain : call.Plain) {point : EntryPoint}
    (single : call.entryPoint? = some point) :
    ∃ (result : ResultKind) (native : NativeCall result),
      call.script context copy relocated messages =
        .call native (fun given => .done (kind.read given)) ∧
      native.name = point.name ∧ native.context? = some context ∧
      native.texts = call.passedTexts.map Text.encode := by
  cases call with
  | run | takeDiagnostics => cases single
  | setOutputType | relocate =>
      cases single
      exact ⟨_, _, rfl, rfl, rfl, rfl⟩
  | defineSymbol name value =>
      cases single
      have nameZero := plain name (by simp [texts])
      have valueZero := plain value (by simp [texts])
      simp only [script, Script.onText, dif_neg nameZero, dif_neg valueZero]
      exact ⟨_, _, rfl, rfl, rfl, rfl⟩
  | addSymbol name value =>
      cases single
      cases value with
      | address address =>
          have nameZero := plain name (by simp [texts])
          simp only [script, Script.onText, dif_neg nameZero]
          exact ⟨_, _, rfl, rfl, rfl, rfl⟩
      | text text =>
          have nameZero := plain name (by simp [texts])
          have textZero := plain text (by simp [texts])
          simp only [script, Script.onText, dif_neg nameZero, dif_neg textZero]
          exact ⟨_, _, rfl, rfl, rfl, rfl⟩
  | setLibPath text | setOptions text | undefineSymbol text | addIncludePath text
  | addSysincludePath text | addLibrary text | addLibraryPath text | addFile text
  | compileString text | getSymbol text =>
      cases single
      have zero := plain text (by simp [texts])
      simp only [script, Script.onText, dif_neg zero]
      exact ⟨_, _, rfl, rfl, rfl, rfl⟩

end Call

namespace Native

/-- The native calls of a run, with its answer: a relocation unless one has succeeded before; if it
succeeds, a look for the main function; and if there is one, its call. -/
inductive Ran (context : Address) (argc : Int32) : Bool → List Exchange → Status → Prop where
  | relocationFailed {code : Int32} : (Status.mk code).isErr = true →
      Ran context argc false [⟨.relocate context NativeCall.anyPlace, code⟩] ⟨code⟩
  | relocated {code : Int32} {made : List Exchange} {status : Status} :
      (Status.mk code).isOk = true → Ran context argc true made status →
      Ran context argc false (⟨.relocate context NativeCall.anyPlace, code⟩ :: made) status
  | noMain {name : CText} : name.bytes = Text.encode "main" →
      Ran context argc true [⟨.getSymbol context name, (0 : Address)⟩] .failed
  | main {name : CText} {address : Address} {code : Int32} :
      name.bytes = Text.encode "main" → address ≠ 0 →
      Ran context argc true [⟨.getSymbol context name, address⟩, ⟨.main address argc, code⟩] ⟨code⟩

namespace Script

variable {ν : Type} (code : ForeignCode ν) (image : Nat) (plant : Plant ν)

theorem eq_zero_of_ofAddress? {address : Address}
    (missing : SymbolHandle.ofAddress? address = none) : address = 0 := by
  by_cases zero : address = 0
  · exact zero
  · rw [SymbolHandle.ofAddress?, dif_pos zero] at missing
    cases missing

theorem address_of_ofAddress? {address : Address} {handle : SymbolHandle}
    (found : SymbolHandle.ofAddress? address = some handle) : handle.address = address := by
  rw [SymbolHandle.ofAddress?] at found
  split at found
  · cases found
    rfl
  · cases found

theorem ran_main (context : Address) (argc : Int32) :
    Ran context argc true ((main context argc).run code image plant).2.1
      ((main context argc).run code image plant).1 := by
  have plain : 0 ∉ Text.encode "main" := by decide
  simp only [main, onText, dif_neg plain, run]
  split
  case h_1 missing =>
    simp only [run, eq_zero_of_ofAddress? missing]
    exact .noMain rfl
  case h_2 handle found =>
    have address := address_of_ofAddress? found
    simp only [status, run, ← address]
    exact .main rfl handle.address_ne_zero

/-- A run makes at most three native calls. -/
theorem ran_program (context : Address) (relocated : Bool) (argc : Int32) :
    Ran context argc relocated ((program context relocated argc).run code image plant).2.1
      ((program context relocated argc).run code image plant).1 := by
  cases relocated with
  | true => exact ran_main code image plant context argc
  | false =>
      simp only [program, Bool.false_eq_true, if_false, run]
      split
      case isTrue failed => exact .relocationFailed failed
      case isFalse succeeded =>
        refine .relocated ?_ (ran_main code image _ context argc)
        rw [Status.isErr_eq_not_isOk] at succeeded
        simpa using succeeded

end Script

end Native

end CompileSession
