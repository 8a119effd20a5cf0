import CompileSession.Config.Defines
import CompileSession.Path
import CompileSession.Status

/-!
# Session configurations

Everything that brings a session into a state in which it can compile.
-/

namespace CompileSession

/-- A session's configuration; every part has a default, which stands for it where it is missing
from a file. -/
structure SessionConfig where
  /-- What the compiled code is for. -/
  mode : OutputMode := OutputMode.default
  /-- The directory of the compiler's support library and headers. -/
  libPath : Option Path := none
  /-- Options as on the compiler's command line. -/
  options : Option String := none
  includePaths : List Path := []
  sysincludePaths : List Path := []
  libraryPaths : List Path := []
  /-- Libraries to link, by their short names. -/
  libraries : List String := []
  defines : Defines := Defines.empty
  /-- How many workers compile asynchronously. -/
  workers : UInt64 := 1
  /-- Where the completions of asynchronous compiles run. -/
  delivery : Delivery := Delivery.default
deriving DecidableEq, Repr

namespace SessionConfig

/-- The configuration of a session that is told nothing. -/
def default : SessionConfig where
  mode := .execute
  libPath := none
  options := none
  includePaths := []
  sysincludePaths := []
  libraryPaths := []
  libraries := []
  defines := .empty
  workers := 1
  delivery := .worker

/-- The configuration for a compiler that is installed below a root directory. -/
def bundled (root : Path) : SessionConfig :=
  let lib := (root.join (.ofText "lib")).join (.ofText "tcc")
  { default with
    libPath := some lib
    includePaths := [lib.join (.ofText "include"), root.join (.ofText "include")] }

/-- Adds a definition, which comes after all others even if its name was defined before. -/
def define (config : SessionConfig) (spec : String) : SessionConfig :=
  let spec := DefineSpec.ofText spec
  { config with defines := config.defines.moveLast spec.name spec.value }

def defineAll (config : SessionConfig) (specs : List String) : SessionConfig :=
  specs.foldl define config

def paths (config : SessionConfig) : List Path :=
  config.libPath.toList ++ config.includePaths ++ config.sysincludePaths ++ config.libraryPaths

end SessionConfig

end CompileSession
