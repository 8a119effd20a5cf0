import CompileSession.CommandLine.Help
import CompileSession.Program

/-!
# The command line

What a process does with its arguments: its exit status and what it writes.
-/

namespace CompileSession.CommandLine

open Native

/-- How a process ends. -/
structure Exit where
  status : UInt8
  stdout : String := ""
  stderr : String := ""
deriving DecidableEq, Repr

/-- A process exits with the lowest eight bits of a code. -/
def statusOfCode (code : Int32) : UInt8 :=
  UInt8.ofInt code.toInt

/-- The lines of a cause below the heading; all but the first are indented by a margin. -/
def causeLines (first margin cause : String) : List String :=
  match Text.splitLines cause with
  | [] => []
  | line :: rest => (first ++ line) :: rest.map (margin ++ ·)

/-- The causes of an error, numbered if there are several. -/
def causesText : List String → List String
  | [] => []
  | [cause] => "" :: "Caused by:" :: causeLines "    " "    " cause
  | causes =>
      "" :: "Caused by:" :: (causes.zipIdx.map fun (cause, number) =>
        causeLines (Text.alignRight 5 (toString number) ++ ": ") "       " cause).flatten

/-- The account of an error that ends a process. -/
def errorText (error : ProgramError) : String :=
  Text.joinLines (("Error: " ++ error.message) :: causesText error.causes) ++ "\n"

/-- What is printed about a symbol: where it is, or why that is not known. -/
def symbolLine (name : String) : Except SessionError SymbolHandle → String
  | .ok handle => "0x" ++ Text.hexPadded 16 handle.address.toNat ++ " " ++ name ++ "\n"
  | .error error => Text.alignRight 18 "-" ++ " " ++ name ++ " (" ++ error.message ++ ")\n"

/-- The configuration that a command works with: the file that was named or the user's own, and
what the arguments add to it. -/
def CompileArguments.sessionConfig (arguments : CompileArguments) (surroundings : Surroundings) :
    Except ProgramError SessionConfig := do
  let config ← match arguments.config with
    | some path => (SessionConfig.load surroundings.files path).mapError (.config path)
    | none =>
      (SessionConfig.loadUser surroundings.files surroundings.environment).mapError .userConfig
  let config := { config with
    mode := .execute
    libPath := arguments.libPath <|> config.libPath
    includePaths := config.includePaths ++ arguments.includePaths
    libraryPaths := config.libraryPaths ++ arguments.libraryPaths
    libraries := config.libraries ++ arguments.libraries }
  return config.defineAll arguments.defines

variable {ν : Type}

/-- Carries a command out: the exit status and what is printed. -/
def execute (code : ForeignCode ν) (surroundings : Surroundings) (command : Command)
    (host : Host (Shared ν)) : Program.Ending ν (UInt8 × String) :=
  match command with
  | .version => (.ok (0, versionText), host)
  | .run file arguments async =>
    match arguments.sessionConfig surroundings with
    | .error error => (.error error, host)
    | .ok config =>
      let (ending, host) :=
        if async then Program.runText code surroundings file config host
        else Program.runFile code surroundings.environment file config host
      (ending.map fun result => (statusOfCode result, ""), host)
  | .symbols file arguments names =>
    match arguments.sessionConfig surroundings with
    | .error error => (.error error, host)
    | .ok config =>
      let (ending, host) :=
        Program.findSymbols code surroundings.environment file names config host
      (ending.map fun found => (0, String.join (names.zipWith symbolLine found)), host)

/-- What a process does with its arguments on a fresh host.  The log is written as it was made, in
front of the account of an error. -/
def run (code : ForeignCode ν) (surroundings : Surroundings) (arguments : List String)
    (host : Host (Shared ν)) : Exit × Host (Shared ν) :=
  match Request.ofArguments arguments with
  | .usageError =>
    ({ status := 2, stderr := "error: invalid arguments\n\n" ++ Topic.program.text }, host)
  | .showVersion => ({ status := 0, stdout := versionText }, host)
  | .showHelp topic => ({ status := 0, stdout := topic.text }, host)
  | .execute command verbosity =>
    let logger : Log.Logger := Log.Logger.install {} (.ofVerbosity verbosity)
    let (ending, host) := execute code surroundings command host
    let log := logger.write host.journal.events
    match ending with
    | .ok (status, stdout) => ({ status, stdout, stderr := log }, host)
    | .error error => ({ status := 1, stderr := log ++ errorText error }, host)

end CompileSession.CommandLine
