import CompileSession.Config.Decode
import CompileSession.Config.Encode
import CompileSession.Files

/-!
# Configuration files

Reading and writing configurations in files, and where the user's own configuration lies.
-/

namespace CompileSession

/-- The environment variables that a process was started with; values need not be text. -/
abbrev Environment := List (String × List UInt8)

/-- The value of a variable, if it is set and is text. -/
def Environment.text? (environment : Environment) (name : String) : Option String :=
  (List.lookup name environment).bind Text.decode?

namespace SessionConfig

/-- The name of the directory that holds the user's configuration. -/
def directoryName : Path := .ofText "tcc-session"

/-- The user's configuration directory: below the first of three variables that is set. -/
def userDirectory? (environment : Environment) : Option Path :=
  let below (name : String) : Option Path := (environment.text? name).map Path.ofText
  (below "XDG_CONFIG_HOME").map (·.join directoryName)
    |>.orElse (fun _ => (below "HOME").map fun home =>
      (home.join (.ofText ".config")).join directoryName)
    |>.orElse (fun _ => (below "APPDATA").map (·.join directoryName))

def userFile? (environment : Environment) : Option Path :=
  (userDirectory? environment).map (·.join (.ofText "config.toml"))

def load (files : FileTree) (path : Path) : Except ConfigError SessionConfig :=
  match files.readText path with
  | .error error => .error (.io path error)
  | .ok text => parse text

/-- The user's configuration, or the default when there is no file. -/
def loadUser (files : FileTree) (environment : Environment) :
    Except ConfigError SessionConfig :=
  match userFile? environment with
  | none => .ok .default
  | some path => if files.pathExists path then load files path else .ok .default

/-- Writes a configuration to a file.  The directories above the file are created first, and stay
even if the configuration then cannot be written. -/
def save (files : FileTree) (path : Path) (config : SessionConfig) :
    Except ConfigError Unit × FileTree :=
  match path.parent? with
  | none => writeFile files
  | some directory =>
    match files.createDirectories directory.bytes.length directory with
    | (.error error, changed) => (.error (.io directory error), changed)
    | (.ok (), changed) => writeFile changed
where
  /-- Writes the file itself. -/
  writeFile (files : FileTree) : Except ConfigError Unit × FileTree :=
    match config.render? with
    | none => (.error .serialize, files)
    | some text =>
      match files.write path (Text.encode text) with
      | .error error => (.error (.io path error), files)
      | .ok changed => (.ok (), changed)

end SessionConfig

end CompileSession
