import CompileSession.Native.Library

/-!
# Engines on native libraries

A binding drives one compilation context of a library.  Every call becomes the call of one entry
point, unless an argument holds a zero byte: then nothing is called.  Running relocates first if no
relocation has succeeded before.
-/

namespace CompileSession.Native

variable {ν : Type}

/-- An engine's own context in a library. -/
structure Binding where
  library : Library
  context : Address
  sink : Nat
  relocated : Bool := false
deriving DecidableEq, Repr

/-- What a call has given: its answer, and the binding and the machine after it. -/
abbrev Answered (ν α : Type) := α × Binding × Machine (Shared ν)

namespace Binding

def describe (binding : Binding) : String :=
  "TccEngine \x7b library: " ++ Text.quoted binding.library.path ++ ", state: 0x" ++
    Text.hexDigits binding.context.toNat ++ " \x7d"

/-- Creates a context in a library, with a sink of its own. -/
def create (code : ForeignCode ν) (library : Library) (machine : Machine (Shared ν)) :
    Except EngineError Binding × Machine (Shared ν) :=
  let (context, machine) := invoke code library .new machine
  if context = 0 then (.error .contextCreation, machine)
  else
    let sink := machine.shared.sinks.length
    let (_, machine) :=
      invoke code library (.setErrorFunc context sink) (changeSinks (· ++ [[]]) machine)
    (.ok { library, context, sink }, machine)

def callCode (code : ForeignCode ν) (call : NativeCall .code) (binding : Binding)
    (machine : Machine (Shared ν)) : Answered ν Status :=
  let (result, machine) := invoke code binding.library call machine
  (⟨result⟩, binding, machine)

def callNothing (code : ForeignCode ν) (call : NativeCall .nothing) (binding : Binding)
    (machine : Machine (Shared ν)) : Answered ν Unit :=
  let (_, machine) := invoke code binding.library call machine
  ((), binding, machine)

/-- Passes a text on, or fails if it holds a zero byte. -/
def withText (operation text : String)
    (use : CText → Binding → Machine (Shared ν) → Answered ν Status) (binding : Binding)
    (machine : Machine (Shared ν)) : Answered ν Status :=
  match CText.ofText text with
  | .ok text => use text binding machine
  | .error position =>
    (.failed, binding,
      machine.log .warn (operation ++ ": argument contains a NUL byte at " ++ toString position))

/-- Calls an entry point that takes a text and returns a code. -/
def textCode (code : ForeignCode ν) (operation text : String)
    (call : CText → NativeCall .code) : Binding → Machine (Shared ν) → Answered ν Status :=
  withText operation text fun text => callCode code (call text)

/-- Calls an entry point that takes a text and returns nothing. -/
def textNothing (code : ForeignCode ν) (operation text : String)
    (call : CText → NativeCall .nothing) : Binding → Machine (Shared ν) → Answered ν Status :=
  withText operation text fun text binding machine =>
    let (_, binding, machine) := callNothing code (call text) binding machine
    (.ok, binding, machine)

def defineSymbol (code : ForeignCode ν) (name value : String) (binding : Binding)
    (machine : Machine (Shared ν)) : Answered ν Unit :=
  match CText.ofText name, CText.ofText value with
  | .ok name, .ok value =>
    callNothing code (.defineSymbol binding.context name value) binding machine
  | _, _ => ((), binding, machine.log .warn "define_symbol: argument contains a NUL byte")

def undefineSymbol (code : ForeignCode ν) (name : String) (binding : Binding)
    (machine : Machine (Shared ν)) : Answered ν Unit :=
  match CText.ofText name with
  | .ok name => callNothing code (.undefineSymbol binding.context name) binding machine
  | .error _ => ((), binding, machine.log .warn "undefine_symbol: argument contains a NUL byte")

/-- Registers an external symbol.  A text is stored, with a zero byte behind it, in memory that is
never used for anything else; that happens before a look at the name. -/
def addSymbol (code : ForeignCode ν) (name : String) (value : SymbolValue) (binding : Binding)
    (machine : Machine (Shared ν)) : Answered ν Status :=
  match value with
  | .address address =>
    textCode code "add_symbol" name (.addSymbol binding.context · address) binding machine
  | .text text =>
    match CText.ofText text with
    | .error _ =>
      (.failed, binding,
        machine.log .warn ("add_symbol: value for '" ++ name ++ "' contains a NUL byte"))
    | .ok text =>
      let (address, memory) := machine.memory.allocate (text.bytes ++ [0]) 0
      textCode code "add_symbol" name (.addSymbol binding.context · address) binding
        { machine with memory }

def relocate (code : ForeignCode ν) (binding : Binding) (machine : Machine (Shared ν)) :
    Answered ν Status :=
  let (status, binding, machine) :=
    callCode code (.relocate binding.context NativeCall.anyPlace) binding machine
  (status, { binding with relocated := binding.relocated || status.isOk }, machine)

/-- Looks a symbol up; a name that holds a zero byte names nothing. -/
def getSymbol (code : ForeignCode ν) (name : String) (binding : Binding)
    (machine : Machine (Shared ν)) : Answered ν (Option SymbolHandle) :=
  match CText.ofText name with
  | .error _ => (none, binding, machine)
  | .ok name =>
    let (address, machine) := invoke code binding.library (.getSymbol binding.context name) machine
    (SymbolHandle.ofAddress? address, binding, machine)

/-- Calls the relocated program's main function. -/
def callMain (code : ForeignCode ν) (argc : Int32) (binding : Binding)
    (machine : Machine (Shared ν)) : Answered ν Status :=
  match getSymbol code "main" binding machine with
  | (none, binding, machine) =>
    (.failed, binding, machine.log .warn "run: no 'main' in the relocated image")
  | (some handle, binding, machine) =>
    callCode code (.main handle.address argc) binding
      (machine.log .trace ("calling main(" ++ toString argc.toInt ++ ")"))

/-- Runs the program, which is relocated first unless it is already. -/
def run (code : ForeignCode ν) (argc : Int32) (binding : Binding) (machine : Machine (Shared ν)) :
    Answered ν Status :=
  if binding.relocated then callMain code argc binding machine
  else
    match relocate code binding machine with
    | (status, binding, machine) =>
      if status.isErr then (status, binding, machine) else callMain code argc binding machine

/-- Takes the messages out of the binding's sink. -/
def takeDiagnostics (binding : Binding) (machine : Machine (Shared ν)) :
    Answered ν (List String) :=
  (machine.shared.sinks.getD binding.sink [], binding,
    changeSinks (·.modify binding.sink fun _ => []) machine)

def answer (code : ForeignCode ν) {kind : AnswerKind} (call : Call kind) (binding : Binding)
    (machine : Machine (Shared ν)) : Answered ν kind.Answer :=
  match call with
  | .setOutputType mode =>
    callCode code (.setOutputType binding.context mode.raw) binding
      (machine.log .trace ("tcc_set_output_type(" ++ toString mode.raw.toInt ++ ")"))
  | .setLibPath path =>
    textNothing code call.name path (.setLibPath binding.context) binding machine
  | .setOptions options =>
    textNothing code call.name options (.setOptions binding.context) binding machine
  | .defineSymbol name value => defineSymbol code name value binding machine
  | .undefineSymbol name => undefineSymbol code name binding machine
  | .addIncludePath path =>
    textCode code call.name path (.addIncludePath binding.context) binding machine
  | .addSysincludePath path =>
    textCode code call.name path (.addSysincludePath binding.context) binding machine
  | .addLibrary name => textCode code call.name name (.addLibrary binding.context) binding machine
  | .addLibraryPath path =>
    textCode code call.name path (.addLibraryPath binding.context) binding machine
  | .addFile path => textCode code call.name path (.addFile binding.context) binding machine
  | .compileString source =>
    textCode code call.name source (.compileString binding.context) binding machine
  | .addSymbol name value => addSymbol code name value binding machine
  | .relocate => relocate code binding machine
  | .getSymbol name => getSymbol code name binding machine
  | .run argc => run code argc binding machine
  | .takeDiagnostics => takeDiagnostics binding machine

/-- The engine on native libraries, which never gives up in the middle of a call. -/
def engine (code : ForeignCode ν) : Engine (Shared ν) Binding where
  perform call binding machine :=
    let (value, binding, machine) := answer code call binding machine
    (.returned value, binding, machine)

def createByDefault (code : ForeignCode ν) (environment : Environment)
    (machine : Machine (Shared ν)) : Except EngineError Binding × Machine (Shared ν) :=
  match Library.byDefault code environment machine with
  | (.error error, machine) => (.error error, machine)
  | (.ok library, machine) => create code library machine

end Binding

end CompileSession.Native
