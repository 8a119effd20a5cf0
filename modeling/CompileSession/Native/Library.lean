import CompileSession.Config.Store
import CompileSession.Host

/-!
# The compiler's library

What foreign code does is given as a value of `ForeignCode`.  A library is opened once, must have
all entry points, and is never closed.  Messages that it reports during a call go to the sink that
the call's context was given.
-/

namespace CompileSession.Native

/-- What a native call leaves behind. -/
structure Return (ν : Type) (kind : ResultKind) where
  result : kind.Result
  /-- The foreign code's own state. -/
  state : ν
  memory : Memory
  /-- The messages that were reported meanwhile, in order. -/
  reports : List Report

/-- Foreign code with its own state `ν`: how libraries are opened, what they contain and what calls
to them do.  An opened library is named by a number. -/
structure ForeignCode (ν : Type) where
  /-- Opens a library, or says why that is impossible. -/
  openImage : ν → CText → Except String Nat
  /-- Why an opened library has no such function, if it has not. -/
  missing? : ν → Nat → EntryPoint → Option String
  /-- Makes a call to a library or to code that it compiled. -/
  invoke : {kind : ResultKind} → Nat → NativeCall kind → ν → Memory → Return ν kind

/-- A library that has all entry points. -/
structure Library where
  path : String
  image : Nat
deriving DecidableEq, Repr

/-- What all engines on native libraries share. -/
structure Shared (ν : Type) where
  /-- The foreign code's own state. -/
  foreign : ν
  /-- The messages in each sink. -/
  sinks : List (List String) := []
  /-- The library that is used unless another one is named, once it was found. -/
  default : Option Library := none

variable {ν : Type}

def changeSinks (change : List (List String) → List (List String))
    (machine : Machine (Shared ν)) : Machine (Shared ν) :=
  { machine with shared := { machine.shared with sinks := change machine.shared.sinks } }

/-- Puts a reported message into its sink; reports without a sink or a message are ignored. -/
def collect (machine : Machine (Shared ν)) (report : Report) : Machine (Shared ν) :=
  match report.sink, report.message with
  | some sink, some message =>
    let text := Report.text message
    changeSinks (·.modify sink (· ++ [text])) (machine.log .warn ("tcc: " ++ text))
  | _, _ => machine

def invoke (code : ForeignCode ν) (library : Library) {kind : ResultKind} (call : NativeCall kind)
    (machine : Machine (Shared ν)) : kind.Result × Machine (Shared ν) :=
  let returned := code.invoke library.image call machine.shared.foreign machine.memory
  let machine := { machine with
    memory := returned.memory
    shared := { machine.shared with foreign := returned.state } }
  let machine := machine.record (.nativeCall call returned.result returned.reports)
  (returned.result, returned.reports.foldl collect machine)

namespace Library

def describe (library : Library) : String :=
  "TccLibrary \x7b path: " ++ Text.quoted library.path ++ " \x7d"

/-- The first entry point that an opened library lacks. -/
def lacking (code : ForeignCode ν) (state : ν) (image : Nat) : Option EngineError :=
  EntryPoint.all.findSome? fun point =>
    (code.missing? state image point).map (EngineError.missingSymbol point.name)

/-- The name that a path stands for when a library is opened.  A zero byte at the very end is
taken for the one that ends the name; no other is allowed. -/
def imageName (path : String) : Except String CText :=
  let bytes := Text.encode path
  if bytes.getLast? = some 0 then
    if zero : 0 ∈ bytes.dropLast then
      .error "could not create a C string from bytes with trailing null"
    else .ok ⟨bytes.dropLast, zero⟩
  else if zero : 0 ∈ bytes then .error "could not create a C string from bytes"
  else .ok ⟨bytes, zero⟩

def load (code : ForeignCode ν) (path : String) (machine : Machine (Shared ν)) :
    Except EngineError Library × Machine (Shared ν) :=
  match imageName path with
  | .error reason => (.error (.libraryLoad path reason), machine)
  | .ok name =>
    match code.openImage machine.shared.foreign name with
    | .error reason => (.error (.libraryLoad path reason), machine)
    | .ok image =>
      match lacking code machine.shared.foreign image with
      | some error => (.error error, machine)
      | none => (.ok ⟨path, image⟩, machine.log .info ("loaded libtcc from " ++ path))

def variableName : String := "TCC_SESSION_LIBTCC"

def usualPlaces : List String :=
  ["libtcc.so", "libtcc.so.1", "/usr/lib/libtcc.so", "/usr/local/lib/libtcc.so"]

/-- Opens the first library of a list that can be opened. -/
def loadFirst (code : ForeignCode ν) :
    List String → Machine (Shared ν) → Option Library × Machine (Shared ν)
  | [], machine => (none, machine)
  | place :: rest, machine =>
    match load code place machine with
    | (.ok library, machine) => (some library, machine)
    | (.error error, machine) =>
      loadFirst code rest
        (machine.log .debug ("libtcc candidate " ++ place ++ " rejected: " ++ error.message))

/-- Opens the library that the environment names, or one in the usual places. -/
def locate (code : ForeignCode ν) (environment : Environment) (machine : Machine (Shared ν)) :
    Except EngineError Library × Machine (Shared ν) :=
  match environment.text? variableName with
  | some path => load code path machine
  | none =>
    match loadFirst code usualPlaces machine with
    | (some library, machine) => (.ok library, machine)
    | (none, machine) => (.error (.libraryNotFound usualPlaces), machine)

/-- The library that is used unless another one is named.  Once found, it stays. -/
def byDefault (code : ForeignCode ν) (environment : Environment) (machine : Machine (Shared ν)) :
    Except EngineError Library × Machine (Shared ν) :=
  match machine.shared.default with
  | some library => (.ok library, machine)
  | none =>
    match locate code environment machine with
    | (.error error, machine) => (.error error, machine)
    | (.ok library, machine) =>
      (.ok library, { machine with shared := { machine.shared with default := some library } })

end Library

end CompileSession.Native
