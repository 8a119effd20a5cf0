import CompileSession.Status
import CompileSession.Text.Column

/-!
# Errors of engines and sessions

Why an engine could not be brought up, why a session could not be made or a symbol not be found,
and why an asynchronous compile never ran.
-/

namespace CompileSession

/-- Why an engine could not be brought up. -/
inductive EngineError where
  /-- None of the usual places holds the compiler's library. -/
  | libraryNotFound (tried : List String)
  /-- A library could not be opened. -/
  | libraryLoad (path reason : String)
  /-- A library lacks an entry point. -/
  | missingSymbol (name reason : String)
  /-- The library would not create a compilation context. -/
  | contextCreation
deriving DecidableEq, Repr

def EngineError.message : EngineError → String
  | .libraryNotFound tried => "libtcc not found (tried: " ++ Text.joinWith ", " tried ++ ")"
  | .libraryLoad path reason => "failed to load libtcc from '" ++ path ++ "': " ++ reason
  | .missingSymbol name reason => "libtcc is missing '" ++ name ++ "': " ++ reason
  | .contextCreation => "libtcc failed to create a compilation context"

/-- Why a session could not be made, or a symbol not be found. -/
inductive SessionError where
  /-- The engine does not know the symbol. -/
  | symbolNotFound (name : String)
  /-- There is no engine. -/
  | engine (cause : EngineError)
  /-- The engine rejected a part of the configuration. -/
  | configure (step : String) (status : Status)
deriving DecidableEq, Repr

def SessionError.message : SessionError → String
  | .symbolNotFound _ => "symbol error"
  | .engine cause => cause.message
  | .configure step status =>
      "configuration step '" ++ step ++ "' failed with status " ++ status.text

/-- Why an asynchronous compile never ran, or nobody was told about it. -/
inductive DispatchError where
  /-- The session is for inspection only. -/
  | inspectOnly
  /-- The session has no workers. -/
  | poolUnavailable (reason : String)
  /-- The engine gave up in the middle of the compile. -/
  | workerPanicked
  /-- The session went away before the completion was delivered. -/
  | abandoned
deriving DecidableEq, Repr

def DispatchError.message : DispatchError → String
  | .inspectOnly => "async compilation requires an execute-mode session"
  | .poolUnavailable reason => "compile worker pool unavailable: " ++ reason
  | .workerPanicked => "compile worker panicked"
  | .abandoned => "compile completion was abandoned"

/-- What a completion is told about its compile. -/
structure CompileOutcome where
  result : Option Status
  error : Option DispatchError
deriving DecidableEq, Repr

namespace CompileOutcome

def compiled (status : Status) : CompileOutcome :=
  ⟨some status, none⟩

def rejected (error : DispatchError) : CompileOutcome :=
  ⟨none, some error⟩

def isSuccess (outcome : CompileOutcome) : Bool :=
  outcome.error.isNone && outcome.result.any Status.isOk

def toStatus (outcome : CompileOutcome) : Except DispatchError Status :=
  match outcome.error with
  | none => .ok (outcome.result.getD .failed)
  | some error => .error error

end CompileOutcome

end CompileSession
