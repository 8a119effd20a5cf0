import CompileSession.Memory
import CompileSession.Status

/-!
# Entry points of the compiler's library

The library is called with words and zero-terminated texts and answers with addresses and signed
codes.  During a call it may report messages.
-/

namespace CompileSession.Native

/-- A text as the library takes it: bytes, none of which is zero. -/
structure CText where
  bytes : List UInt8
  zero_not_mem : 0 ∉ bytes
deriving DecidableEq

namespace CText

/-- The text for a string, or where the string's first zero byte is. -/
def ofText (text : String) : Except Nat CText :=
  let bytes := Text.encode text
  if zero : 0 ∈ bytes then .error (bytes.takeWhile (· ≠ 0)).length else .ok ⟨bytes, zero⟩

def text (value : CText) : String :=
  Text.decodeLossy value.bytes

end CText

/-- The functions that a library must have. -/
inductive EntryPoint where
  | new
  | setErrorFunc
  | setLibPath
  | setOutputType
  | setOptions
  | defineSymbol
  | undefineSymbol
  | addIncludePath
  | addSysincludePath
  | addLibrary
  | addLibraryPath
  | addFile
  | compileString
  | addSymbol
  | relocate
  | getSymbol
deriving DecidableEq, Repr

namespace EntryPoint

/-- The name under which a function is looked up in the library. -/
def name : EntryPoint → String
  | .new => "tcc_new"
  | .setErrorFunc => "tcc_set_error_func"
  | .setLibPath => "tcc_set_lib_path"
  | .setOutputType => "tcc_set_output_type"
  | .setOptions => "tcc_set_options"
  | .defineSymbol => "tcc_define_symbol"
  | .undefineSymbol => "tcc_undefine_symbol"
  | .addIncludePath => "tcc_add_include_path"
  | .addSysincludePath => "tcc_add_sysinclude_path"
  | .addLibrary => "tcc_add_library"
  | .addLibraryPath => "tcc_add_library_path"
  | .addFile => "tcc_add_file"
  | .compileString => "tcc_compile_string"
  | .addSymbol => "tcc_add_symbol"
  | .relocate => "tcc_relocate"
  | .getSymbol => "tcc_get_symbol"

/-- All of them, in the order in which they are looked up. -/
def all : List EntryPoint :=
  [.new, .setErrorFunc, .setLibPath, .setOutputType, .setOptions, .defineSymbol, .undefineSymbol,
    .addIncludePath, .addSysincludePath, .addLibrary, .addLibraryPath, .addFile, .compileString,
    .addSymbol, .relocate, .getSymbol]

end EntryPoint

/-- The kinds of results that native functions have. -/
inductive ResultKind where
  | address
  | code
  | nothing
deriving DecidableEq, Repr

@[reducible] def ResultKind.Result : ResultKind → Type
  | .address => Address
  | .code => Int32
  | .nothing => Unit

/-- The calls that are made to a library and to the code that it compiled.  All but the first and
the last go to one compilation context, which is named by its address. -/
inductive NativeCall : ResultKind → Type where
  /-- Creates a compilation context. -/
  | new : NativeCall .address
  /-- Says where the context's messages go. -/
  | setErrorFunc (context : Address) (sink : Nat) : NativeCall .nothing
  | setLibPath (context : Address) (path : CText) : NativeCall .nothing
  | setOutputType (context : Address) (raw : Int32) : NativeCall .code
  | setOptions (context : Address) (options : CText) : NativeCall .nothing
  | defineSymbol (context : Address) (name value : CText) : NativeCall .nothing
  | undefineSymbol (context : Address) (name : CText) : NativeCall .nothing
  | addIncludePath (context : Address) (path : CText) : NativeCall .code
  | addSysincludePath (context : Address) (path : CText) : NativeCall .code
  | addLibrary (context : Address) (name : CText) : NativeCall .code
  | addLibraryPath (context : Address) (path : CText) : NativeCall .code
  | addFile (context : Address) (path : CText) : NativeCall .code
  | compileString (context : Address) (source : CText) : NativeCall .code
  | addSymbol (context : Address) (name : CText) (value : Address) : NativeCall .code
  /-- Moves the code to a place, or where the library likes. -/
  | relocate (context : Address) (place : Address) : NativeCall .code
  | getSymbol (context : Address) (name : CText) : NativeCall .address
  /-- Calls compiled code as a program's main function with a count of arguments and none. -/
  | main (function : Address) (argc : Int32) : NativeCall .code

def NativeCall.anyPlace : Address := 1

namespace NativeCall

variable {kind : ResultKind}

/-- The context that a call goes to, if it goes to one. -/
def context? : NativeCall kind → Option Address
  | .new | .main _ _ => none
  | .setErrorFunc context _ | .setLibPath context _ | .setOutputType context _
  | .setOptions context _ | .defineSymbol context _ _ | .undefineSymbol context _
  | .addIncludePath context _ | .addSysincludePath context _ | .addLibrary context _
  | .addLibraryPath context _ | .addFile context _ | .compileString context _
  | .addSymbol context _ _ | .relocate context _ | .getSymbol context _ => some context

def name : NativeCall kind → String
  | .new => EntryPoint.new.name
  | .setErrorFunc _ _ => EntryPoint.setErrorFunc.name
  | .setLibPath _ _ => EntryPoint.setLibPath.name
  | .setOutputType _ _ => EntryPoint.setOutputType.name
  | .setOptions _ _ => EntryPoint.setOptions.name
  | .defineSymbol _ _ _ => EntryPoint.defineSymbol.name
  | .undefineSymbol _ _ => EntryPoint.undefineSymbol.name
  | .addIncludePath _ _ => EntryPoint.addIncludePath.name
  | .addSysincludePath _ _ => EntryPoint.addSysincludePath.name
  | .addLibrary _ _ => EntryPoint.addLibrary.name
  | .addLibraryPath _ _ => EntryPoint.addLibraryPath.name
  | .addFile _ _ => EntryPoint.addFile.name
  | .compileString _ _ => EntryPoint.compileString.name
  | .addSymbol _ _ _ => EntryPoint.addSymbol.name
  | .relocate _ _ => EntryPoint.relocate.name
  | .getSymbol _ _ => EntryPoint.getSymbol.name
  | .main _ _ => "main"

/-- The arguments of a call in one text, its context apart. -/
def arguments : NativeCall kind → String
  | .new => ""
  | .setErrorFunc _ _ => "sink"
  | .setOutputType _ raw => toString raw.toInt
  | .defineSymbol _ name value => name.text ++ "=" ++ value.text
  | .setLibPath _ text | .setOptions _ text | .undefineSymbol _ text | .addIncludePath _ text
  | .addSysincludePath _ text | .addLibrary _ text | .addLibraryPath _ text | .addFile _ text
  | .compileString _ text | .addSymbol _ text _ | .getSymbol _ text => text.text
  | .relocate _ place => if place = anyPlace then "auto" else "other"
  | .main _ argc => toString argc.toInt

def text (call : NativeCall kind) : String :=
  call.name ++ "(" ++ call.arguments ++ ")"

end NativeCall

/-- A message that a library reports during a call: the context that reports, what it passes along
as the place for messages, and the message.  Both can be missing. -/
structure Report where
  context : Address
  sink : Option Nat
  message : Option (List UInt8)
deriving DecidableEq, Repr

/-- The text of a message, which ends at its first zero byte. -/
def Report.text (message : List UInt8) : String :=
  Text.decodeLossy (message.takeWhile (· ≠ 0))

end CompileSession.Native
