import CompileSession.CommandLine.Run

/-!
# The program

The command line as a process.  What it may read is looked at first; then everything is decided,
and written at the end.
-/

namespace CompileSession

open Native

/-- A process that cannot open libraries at all. -/
def noForeignCode : ForeignCode Unit where
  openImage _ name :=
    .error (name.text ++ ": cannot open shared object file: No such file or directory")
  missing? _ _ point := some ("undefined symbol: " ++ point.name)
  invoke {kind} _ _ state memory :=
    let result : kind.Result := match kind with
      | .address => (0 : Address)
      | .code => (-1 : Int32)
      | .nothing => ()
    { result, state, memory, reports := [] }

def variableNames : List String :=
  ["XDG_CONFIG_HOME", "HOME", "APPDATA", Library.variableName]

def filesToRead (environment : Environment) : CommandLine.Command → List Path
  | .run file arguments _ | .symbols file arguments _ =>
    file :: (arguments.config <|> SessionConfig.userFile? environment).toList
  | .version => []

def readEnvironment : IO Environment := do
  let values ← variableNames.mapM fun name => do
    return (← IO.getEnv name).map fun value => (name, Text.encode value)
  return values.filterMap id

/-- A tree that holds some of the host's files, as far as they exist. -/
def readFiles (paths : List Path) : IO FileTree :=
  paths.foldlM (fun tree path => do
    try
      let content ← IO.FS.readBinFile path.display
      return tree.plant path (some content.toList)
    catch
      | .noFileOrDirectory .. => return tree
      | _ => return tree.plant path none) {}

/-- Runs the program with the arguments of the process. -/
def runProcess (arguments : List String) : IO UInt32 := do
  let environment ← readEnvironment
  let paths := match CommandLine.Request.ofArguments arguments with
    | .execute command _ => filesToRead environment command
    | _ => []
  let host : Host (Shared Unit) := { memory := .zeroed 1, shared := { foreign := () } }
  let (exit, _) :=
    CommandLine.run noForeignCode { files := ← readFiles paths, environment } arguments host
  (← IO.getStdout).putStr exit.stdout
  (← IO.getStderr).putStr exit.stderr
  return exit.status.toUInt32

end CompileSession

def main (arguments : List String) : IO UInt32 :=
  CompileSession.runProcess arguments
