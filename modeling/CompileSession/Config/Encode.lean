import CompileSession.Config.Basic
import CompileSession.Toml.Printer

/-!
# Configurations as TOML

A configuration is written with its plain keys first and its definitions as a table at the end.  It
can be written only if its paths are text and its number of workers is an integer of TOML.
-/

namespace CompileSession.SessionConfig

def greatestInteger : Nat := Nat.pow 2 63 - 1

/-- The texts of paths, if all of them are text. -/
def pathTexts? (paths : List Path) : Option (List (List Char)) :=
  paths.mapM fun path => path.text?.map String.toList

def optionalPair (key : String) : Option String → List Char
  | none => []
  | some text => Toml.writePair key (Toml.writeString text.toList)

def listPair (key : String) (texts : List (List Char)) : List Char :=
  Toml.writePair key (Toml.writeArray texts)

def definesTable (defines : Defines) : List Char :=
  "\n[defines]\n".toList ++
    defines.entries.flatMap fun entry => Toml.writePair entry.1 (Toml.writeString entry.2.toList)

/-- A path that may be missing, as a text; nothing if it is there and is not text. -/
def optionalPathText? : Option Path → Option (Option String)
  | none => some none
  | some path => path.text?.map some

def render? (config : SessionConfig) : Option String := do
  let libPath ← optionalPathText? config.libPath
  let includePaths ← pathTexts? config.includePaths
  let sysincludePaths ← pathTexts? config.sysincludePaths
  let libraryPaths ← pathTexts? config.libraryPaths
  if greatestInteger < config.workers.toNat then none
  else
    some <| String.ofList <|
      Toml.writePair "mode" (Toml.writeString config.mode.text.toList) ++
      optionalPair "lib_path" libPath ++
      optionalPair "options" config.options ++
      listPair "include_paths" includePaths ++
      listPair "sysinclude_paths" sysincludePaths ++
      listPair "library_paths" libraryPaths ++
      listPair "libraries" (config.libraries.map String.toList) ++
      Toml.writePair "workers" (Nat.toDigits 10 config.workers.toNat) ++
      Toml.writePair "delivery" (Toml.writeString config.delivery.text.toList) ++
      definesTable config.defines

end CompileSession.SessionConfig
