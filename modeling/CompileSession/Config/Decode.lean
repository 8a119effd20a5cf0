import CompileSession.Config.Basic
import CompileSession.Files
import CompileSession.Text.Quoted
import CompileSession.Toml.Parser

/-!
# Configurations from TOML

The keys of a table are looked at in order; unknown keys are passed over and missing keys mean the
default.  The first value that does not fit its key is reported.
-/

namespace CompileSession

/-- Why a value does not fit its key. -/
inductive Misfit where
  /-- It is of another kind than the key's. -/
  | wrongKind (found expected : String)
  /-- It is of the right kind but out of range. -/
  | wrongValue (found expected : String)
  /-- It is none of a key's words. -/
  | unknownWord (found : String) (expected : List String)
  /-- It is neither a word nor anything that could stand for one. -/
  | noWord
deriving DecidableEq, Repr

namespace Misfit

/-- What is said about a value that does not fit. -/
def message : Misfit → String
  | .wrongKind found expected => "invalid type: " ++ found ++ ", expected " ++ expected
  | .wrongValue found expected => "invalid value: " ++ found ++ ", expected " ++ expected
  | .unknownWord found expected =>
    "unknown variant `" ++ found ++ "`, expected " ++
      Text.joinWith " or " (expected.map fun word => "`" ++ word ++ "`")
  | .noWord => "wanted string or table"

end Misfit

def Toml.Value.description : Toml.Value → String
  | .string text => "string " ++ Text.quoted text
  | .integer value => "integer `" ++ toString value ++ "`"
  | .float value => "floating point `" ++ value.text ++ "`"
  | .boolean true => "boolean `true`"
  | .boolean false => "boolean `false`"
  | .datetime _ => "map"
  | .array _ => "sequence"
  | .table _ => "map"

namespace SessionConfig

def misplaced (value : Toml.Value) (expected : String) : Misfit :=
  .wrongKind value.description expected

def decodeText : Toml.Value → Except Misfit String
  | .string text => .ok text
  | value => .error (misplaced value "a string")

def decodePath : Toml.Value → Except Misfit Path
  | .string text => .ok (.ofText text)
  | value => .error (misplaced value "path string")

def decodeList {α : Type} (item : Toml.Value → Except Misfit α) :
    Toml.Value → Except Misfit (List α)
  | .array items => items.mapM item
  | value => .error (misplaced value "a sequence")

/-- A value as a number that cannot be negative. -/
def decodeCount : Toml.Value → Except Misfit UInt64
  | .integer value =>
    if 0 ≤ value then .ok (UInt64.ofNat value.toNat)
    else .error (.wrongValue (Toml.Value.description (.integer value)) "usize")
  | value => .error (misplaced value "usize")

/-- The key under which a date and time is found when a table is asked for. -/
def datetimeKey : String := "$__toml_private_datetime"

def decodeDefines : Toml.Value → Except Misfit Defines
  | .table entries => do
    let pairs ← entries.mapM fun (name, value) => return (name, ← decodeText value)
    return .ofList pairs
  | .datetime text => .ok (.ofList [(datetimeKey, text)])
  | value => .error (misplaced value "a map")

def decodeWord {α : Type} (words : List (String × α)) (found : String) : Except Misfit α :=
  match words.lookup found with
  | some meaning => .ok meaning
  | none => .error (.unknownWord found (words.map Prod.fst))

def isVacant : Toml.Value → Bool
  | .array [] => true
  | .table [] => true
  | _ => false

/-- A value as one of some words: either the word itself or a table with the word as its only key
and nothing under it. -/
def decodeEnum {α : Type} (words : List (String × α)) : Toml.Value → Except Misfit α
  | .string text => decodeWord words text
  | .table [(key, value)] => do
    let meaning ← decodeWord words key
    if isVacant value then .ok meaning else .error .noWord
  | _ => .error .noWord

def modeWords : List (String × OutputMode) :=
  [OutputMode.inspect, .execute].map fun mode => (mode.text, mode)

def deliveryWords : List (String × Delivery) :=
  [Delivery.worker, .queued].map fun delivery => (delivery.text, delivery)

/-- A configuration with the value of one key taken over. -/
def decodeEntry (config : SessionConfig) (entry : String × Toml.Value) :
    Except Misfit SessionConfig := do
  let (key, value) := entry
  if key = "mode" then
    return { config with mode := ← decodeEnum modeWords value }
  else if key = "lib_path" then
    return { config with libPath := some (← decodePath value) }
  else if key = "options" then
    return { config with options := some (← decodeText value) }
  else if key = "include_paths" then
    return { config with includePaths := ← decodeList decodePath value }
  else if key = "sysinclude_paths" then
    return { config with sysincludePaths := ← decodeList decodePath value }
  else if key = "library_paths" then
    return { config with libraryPaths := ← decodeList decodePath value }
  else if key = "libraries" then
    return { config with libraries := ← decodeList decodeText value }
  else if key = "defines" then
    return { config with defines := ← decodeDefines value }
  else if key = "workers" then
    return { config with workers := ← decodeCount value }
  else if key = "delivery" then
    return { config with delivery := ← decodeEnum deliveryWords value }
  else
    return config

def decode (entries : Toml.Entries) : Except Misfit SessionConfig :=
  entries.foldlM decodeEntry {}

end SessionConfig

/-- Why a text is not a configuration, or a file could not be read or written. -/
inductive ConfigError where
  /-- The operating system refused to read or write. -/
  | io (path : Path) (error : FileError)
  /-- The text is not a TOML document. -/
  | notToml
  /-- A value does not fit its key. -/
  | misfit (cause : Misfit)
  /-- The configuration cannot be written as TOML. -/
  | serialize
  /-- All values fit, but they do not make sense. -/
  | invalid (reason : String)
deriving DecidableEq, Repr

namespace ConfigError

/-- What is said about the cause of an error, where there is one. -/
def cause? : ConfigError → Option String
  | .io _ error => some error.message
  | .notToml => some "invalid TOML document"
  | .misfit cause => some cause.message
  | .serialize => some "unsupported value"
  | .invalid _ => none

def message : ConfigError → String
  | .io path error => "IO error on " ++ path.display ++ ": " ++ error.message
  | .notToml => "Config parse error: invalid TOML document"
  | .misfit cause => "Config parse error: " ++ cause.message
  | .serialize => "Config serialize error: unsupported value"
  | .invalid reason => "Invalid config: " ++ reason

/-- An error and its causes, from the outside in. -/
def chain (error : ConfigError) : List String :=
  error.message :: error.cause?.toList

end ConfigError

namespace SessionConfig

/-- The configuration that a text stands for.  It has at least one worker. -/
def parse (text : String) : Except ConfigError SessionConfig :=
  match Toml.parse? text with
  | none => .error .notToml
  | some entries =>
    match decode entries with
    | .error cause => .error (.misfit cause)
    | .ok config =>
      if config.workers = 0 then .error (.invalid "workers must be at least 1") else .ok config

end SessionConfig

end CompileSession
