import CompileSession.Native.Binding
import CompileSession.Session.Creation
import CompileSession.Session.Delivery

/-!
# Programs in a session of their own

A source file is compiled in a fresh session on the default library; then its main function is run
or its symbols are looked up.
-/

namespace CompileSession

/-- What a process starts with. -/
structure Surroundings where
  files : FileTree
  environment : Environment

/-- Why a program could not be run or looked at. -/
inductive ProgramError where
  /-- The configuration file that was named cannot be loaded. -/
  | config (path : Path) (cause : ConfigError)
  /-- The user's own configuration file cannot be loaded. -/
  | userConfig (cause : ConfigError)
  /-- There is no session. -/
  | session (cause : SessionError)
  /-- The source file cannot be read. -/
  | source (path : Path) (cause : FileError)
  /-- The source file does not compile. -/
  | compile (path : Path) (status : Status) (diagnostics : List String)
  /-- The source text does not compile. -/
  | compileText (path : Path) (diagnostics : List String)
  /-- The source file does not compile or cannot be relocated. -/
  | build (path : Path) (diagnostics : List String)
  /-- The source text was never compiled. -/
  | dispatch (cause : DispatchError)
  /-- Nothing is known about the source text's compile. -/
  | lost
  /-- The engine gave up. -/
  | panicked (panic : Panic)
deriving DecidableEq, Repr

namespace ProgramError

def message : ProgramError → String
  | .config path _ => "Failed to load config: " ++ path.display
  | .userConfig _ => "Failed to load user config"
  | .session _ => "Failed to create session"
  | .source path _ => "Failed to read file: " ++ path.display
  | .compile path status diagnostics =>
      "Failed to compile " ++ path.display ++ " (status " ++ status.text ++ "): " ++
        Text.joinWith "; " diagnostics
  | .compileText path diagnostics =>
      "Failed to compile " ++ path.display ++ ": " ++ Text.joinWith "; " diagnostics
  | .build path diagnostics =>
      "Failed to build " ++ path.display ++ ": " ++ Text.joinWith "; " diagnostics
  | .dispatch _ => "Async compile could not be dispatched"
  | .lost => "Async compile was abandoned"
  | .panicked _ => "The engine gave up"

/-- What is said about the causes of an error, from the outside in. -/
def causes : ProgramError → List String
  | .config _ cause => cause.chain
  | .userConfig cause => cause.chain
  | .session cause => [cause.message]
  | .source _ cause => [cause.message]
  | .dispatch cause => [cause.message]
  | .panicked (.engine message) => [message]
  | _ => []

/-- An error and its causes, from the outside in. -/
def chain (error : ProgramError) : List String :=
  error.message :: error.causes

end ProgramError

namespace Program

open Native

variable {ν : Type}

/-- A session on a native library together with its host. -/
abbrev NativeSite (ν : Type) := Site (Shared ν) Binding

abbrev Ending (ν α : Type) := Except ProgramError α × Host (Shared ν)

/-- Goes on with the value of a call, unless the engine gave up. -/
def continueWith {α β : Type} (answer : Reply α × NativeSite ν)
    (next : α → NativeSite ν → Ending ν β) : Ending ν β :=
  match answer with
  | (.returned value, site) => next value site
  | (.panicked panic, site) => (.error (.panicked panic), site.host)

/-- Makes a session on the default library from a configuration, and goes on with it. -/
def withSession {α : Type} (code : ForeignCode ν) (environment : Environment)
    (config : SessionConfig) (host : Host (Shared ν)) (next : NativeSite ν → Ending ν α) :
    Ending ν α :=
  match Binding.createByDefault code environment host.toMachine with
  | (.error error, machine) =>
    (.error (.session (.engine error)), { host with toMachine := machine })
  | (.ok binding, machine) =>
    let host := { host with toMachine := machine }
    continueWith (Session.createConfigured (Binding.engine code) binding config host)
      fun result site =>
        match result with
        | .error error => (.error (.session error), site.host)
        | .ok () => next site

/-- Ends with an error that tells the engine's diagnostics. -/
def failWith {α : Type} (code : ForeignCode ν) (error : List String → ProgramError)
    (site : NativeSite ν) : Ending ν α :=
  continueWith (site.takeDiagnostics (Binding.engine code)) fun diagnostics site =>
    (.error (error diagnostics), site.host)

/-- Runs what was compiled, and ends with what its main function returns. -/
def finish (code : ForeignCode ν) (site : NativeSite ν) : Ending ν Int32 :=
  continueWith (site.run (Binding.engine code) 0) fun status site => (.ok status.code, site.host)

def runFile (code : ForeignCode ν) (environment : Environment) (path : Path)
    (config : SessionConfig) (host : Host (Shared ν)) : Ending ν Int32 :=
  withSession code environment { config with mode := .execute } host fun site =>
    let site := site.log .debug ("running " ++ path.display)
    continueWith (site.checked (Binding.engine code) (.addFile path.display)) fun status site =>
      if status.isErr then failWith code (.compile path status) site else finish code site

/-- Waits for the outcome of a future: the background runs, and what it leaves in the queue is
delivered. -/
def await (code : ForeignCode ν) (ticket : Nat) (site : NativeSite ν) :
    Reply (Option FutureState) × NativeSite ν :=
  let site := site.settle (Binding.engine code) true
  match site.deliverCompletionsTimeout with
  | (.panicked panic, site) => (.panicked panic, site)
  | (.returned _, site) => (.returned (site.session.future? ticket), site)

/-- Reads a file, compiles its text on a worker and runs it. -/
def runText (code : ForeignCode ν) (surroundings : Surroundings) (path : Path)
    (config : SessionConfig) (host : Host (Shared ν)) : Ending ν Int32 :=
  withSession code surroundings.environment config host fun site =>
    match surroundings.files.readText path with
    | .error error => (.error (.source path error), site.host)
    | .ok source =>
      let ticket := site.session.submitted
      continueWith (await code ticket (site.submit .caller source .future)) fun state site =>
        match state with
        | some (.ready outcome) =>
          match outcome.toStatus with
          | .error error => (.error (.dispatch error), site.host)
          | .ok status =>
            if status.isErr then failWith code (.compileText path) site else finish code site
        | _ => (.error .lost, site.host)

/-- Looks names up, one after the other, whether or not they are found. -/
def lookUpAll (code : ForeignCode ν) :
    List String → NativeSite ν → Reply (List (Except SessionError SymbolHandle)) × NativeSite ν
  | [], site => (.returned [], site)
  | name :: rest, site =>
    match site.getSymbol (Binding.engine code) name with
    | (.panicked panic, site) => (.panicked panic, site)
    | (.returned result, site) =>
      match lookUpAll code rest site with
      | (.panicked panic, site) => (.panicked panic, site)
      | (.returned results, site) => (.returned (result :: results), site)

/-- Compiles and relocates a file, and looks names up in it. -/
def findSymbols (code : ForeignCode ν) (environment : Environment) (path : Path)
    (names : List String) (config : SessionConfig) (host : Host (Shared ν)) :
    Ending ν (List (Except SessionError SymbolHandle)) :=
  let engine := Binding.engine code
  withSession code environment config host fun site =>
    continueWith (site.checked engine (.addFile path.display)) fun status site =>
      if status.isErr then failWith code (.build path) site
      else
        continueWith (site.checked engine .relocate) fun status site =>
          if status.isErr then failWith code (.build path) site
          else continueWith (lookUpAll code names site) fun found site => (.ok found, site.host)

end Program

end CompileSession
