import CompileSession.Memory
import CompileSession.Status

/-!
# Engine calls

A compiler engine is driven through a fixed set of calls.  The type of a call says what kind of
answer it gets, so that an answer never has to be checked against its call.
-/

namespace CompileSession

/-- The kinds of answers that an engine gives. -/
inductive AnswerKind where
  | status
  | done
  | lookup
  | messages
deriving DecidableEq, Repr

@[reducible] def AnswerKind.Answer : AnswerKind → Type
  | .status => Status
  | .done => Unit
  | .lookup => Option SymbolHandle
  | .messages => List String

/-- What compiled code finds under the name of an external symbol. -/
inductive SymbolValue where
  /-- Something that lies at an address already. -/
  | address (address : Address)
  /-- A text, which is stored with a zero byte behind it and stays there. -/
  | text (text : String)
deriving DecidableEq

/-- The calls that an engine answers. -/
inductive Call : AnswerKind → Type where
  /-- Fixes what the compiled code is for. -/
  | setOutputType (mode : OutputMode) : Call .status
  /-- Sets the directory of the compiler's support library and headers. -/
  | setLibPath (path : String) : Call .status
  /-- Applies options as on the compiler's command line. -/
  | setOptions (options : String) : Call .status
  /-- Defines a macro. -/
  | defineSymbol (name value : String) : Call .done
  /-- Removes a macro. -/
  | undefineSymbol (name : String) : Call .done
  | addIncludePath (path : String) : Call .status
  | addSysincludePath (path : String) : Call .status
  | addLibrary (name : String) : Call .status
  | addLibraryPath (path : String) : Call .status
  /-- Adds a source file, an object file or a library. -/
  | addFile (path : String) : Call .status
  /-- Compiles a text. -/
  | compileString (source : String) : Call .status
  /-- Gives compiled code an external symbol to link against. -/
  | addSymbol (name : String) (value : SymbolValue) : Call .status
  /-- Moves the compiled code to where it can be executed. -/
  | relocate : Call .status
  /-- Looks a symbol up. -/
  | getSymbol (name : String) : Call .lookup
  /-- Runs the program with a count of arguments, but no arguments. -/
  | run (argc : Int32) : Call .status
  /-- Takes the diagnostics that were reported since they were last taken. -/
  | takeDiagnostics : Call .messages

namespace Call

variable {kind : AnswerKind}

def name : Call kind → String
  | .setOutputType _ => "set_output_type"
  | .setLibPath _ => "set_lib_path"
  | .setOptions _ => "set_options"
  | .defineSymbol _ _ => "define_symbol"
  | .undefineSymbol _ => "undefine_symbol"
  | .addIncludePath _ => "add_include_path"
  | .addSysincludePath _ => "add_sysinclude_path"
  | .addLibrary _ => "add_library"
  | .addLibraryPath _ => "add_library_path"
  | .addFile _ => "add_file"
  | .compileString _ => "compile_string"
  | .addSymbol _ _ => "add_symbol"
  | .relocate => "relocate"
  | .getSymbol _ => "get_symbol"
  | .run _ => "run"
  | .takeDiagnostics => "take_diagnostics"

def arguments : Call kind → String
  | .setOutputType mode => toString mode.raw.toInt
  | .setLibPath path => path
  | .setOptions options => options
  | .defineSymbol name value => name ++ "=" ++ value
  | .undefineSymbol name => name
  | .addIncludePath path => path
  | .addSysincludePath path => path
  | .addLibrary name => name
  | .addLibraryPath path => path
  | .addFile path => path
  | .compileString source => source
  | .addSymbol name (.address address) => name ++ ", address " ++ toString address.toNat
  | .addSymbol name (.text text) => name ++ ", text " ++ text
  | .relocate => ""
  | .getSymbol name => name
  | .run argc => toString argc.toInt
  | .takeDiagnostics => ""

def text (call : Call kind) : String :=
  call.name ++ "(" ++ call.arguments ++ ")"

end Call

end CompileSession
