import CompileSession.Path

/-!
# Command-line arguments

The arguments of a process are read from left to right against a table of options; what is neither
an option nor an option's value is positional.  Asking for help or for the version ends the reading
at once, and so does the first mistake.
-/

namespace CompileSession.CommandLine

/-- The options. -/
inductive Opt where
  | verbose
  | help
  | version
  | config
  | libPath
  | includePath
  | libraryPath
  | library
  | define
  | async
deriving DecidableEq, Repr

namespace Opt

def short? : Opt → Option Char
  | .verbose => some 'v'
  | .help => some 'h'
  | .version => some 'V'
  | .includePath => some 'I'
  | .libraryPath => some 'L'
  | .library => some 'l'
  | .define => some 'D'
  | .config | .libPath | .async => none

def long? : Opt → Option String
  | .verbose => some "verbose"
  | .help => some "help"
  | .version => some "version"
  | .config => some "config"
  | .libPath => some "lib-path"
  | .async => some "async"
  | .includePath | .libraryPath | .library | .define => none

def takesValue : Opt → Bool
  | .verbose | .help | .version | .async => false
  | .config | .libPath | .includePath | .libraryPath | .library | .define => true

end Opt

/-- What is found among the arguments. -/
inductive Item where
  | flag (option : Opt)
  | value (option : Opt) (text : String)
  | positional (text : String)
  /-- An unknown option, a value too many or a value too few. -/
  | mistake
deriving DecidableEq, Repr

/-- Whether an argument looks like an option; a single dash does not. -/
def looksLikeOption (argument : String) : Bool :=
  match argument.toList with
  | '-' :: _ :: _ => true
  | _ => false

/-- Reads the letters behind a single dash.  The first option with a value takes the rest of the
argument, with or without an equals sign in front; if there is no rest, the option is returned and
its value has still to come. -/
def readLetters (table : List Opt) : List Char → List Item × Option Opt
  | [] => ([], none)
  | letter :: rest =>
    match table.find? (·.short? = some letter) with
    | none => ([.mistake], none)
    | some option =>
      if option.takesValue then
        match rest with
        | [] => ([], some option)
        | '=' :: value => ([.value option (String.ofList value)], none)
        | value => ([.value option (String.ofList value)], none)
      else
        let (items, pending) := readLetters table rest
        (.flag option :: items, pending)

def readWord (table : List Opt) (chars : List Char) : List Item × Option Opt :=
  let (name, rest) := chars.span (· ≠ '=')
  match table.find? (·.long? = some (String.ofList name)), rest with
  | none, _ => ([.mistake], none)
  | some option, [] => if option.takesValue then ([], some option) else ([.flag option], none)
  | some option, _ :: value =>
    if option.takesValue then ([.value option (String.ofList value)], none)
    else ([.mistake], none)

/-- Reads an argument that looks like an option. -/
def readOption (table : List Opt) (argument : String) : List Item × Option Opt :=
  match argument.toList with
  | '-' :: '-' :: chars => readWord table chars
  | _ :: chars => readLetters table chars
  | [] => ([], none)

/-- Reads arguments.  Behind a bare double dash everything is positional. -/
def readItems (table : List Opt) : List String → List Item
  | [] => []
  | argument :: rest =>
    if argument = "--" then rest.map .positional
    else if looksLikeOption argument then
      match readOption table argument, rest with
      | (items, none), rest => items ++ readItems table rest
      | (items, some _), [] => items ++ [.mistake]
      | (items, some option), value :: rest =>
        if looksLikeOption value then items ++ [.mistake]
        else items ++ .value option value :: readItems table rest
    else .positional argument :: readItems table rest

/-- What the commands that compile are told. -/
structure CompileArguments where
  file : Option Path := none
  config : Option Path := none
  libPath : Option Path := none
  includePaths : List Path := []
  libraryPaths : List Path := []
  libraries : List String := []
  defines : List String := []
deriving DecidableEq, Repr

/-- The commands. -/
inductive CommandName where
  | run
  | symbols
  | version
deriving DecidableEq, Repr

namespace CommandName

def text : CommandName → String
  | .run => "run"
  | .symbols => "symbols"
  | .version => "version"

def ofText? (word : String) : Option CommandName :=
  [run, symbols, version].find? (·.text = word)

def options : CommandName → List Opt
  | .run =>
      [.config, .libPath, .includePath, .libraryPath, .verbose, .library, .define, .async, .help]
  | .symbols => [.config, .libPath, .includePath, .libraryPath, .verbose, .library, .define, .help]
  | .version => [.verbose, .help]

end CommandName

/-- The options that stand in front of the command. -/
def frontOptions : List Opt := [.verbose, .help, .version]

/-- A command with all that it needs. -/
inductive Command where
  | run (file : Path) (arguments : CompileArguments) (async : Bool)
  | symbols (file : Path) (arguments : CompileArguments) (names : List String)
  | version
deriving DecidableEq, Repr

/-- What help can be about. -/
inductive Topic where
  | program
  | command (name : CommandName)
  | help
deriving DecidableEq, Repr

/-- The topic of a word behind the command that shows help. -/
def Topic.ofText? (word : String) : Option Topic :=
  if word = "help" then some .help else (CommandName.ofText? word).map .command

/-- What the arguments ask for. -/
inductive Request where
  | execute (command : Command) (verbosity : Nat)
  | showHelp (topic : Topic)
  | showVersion
  | usageError
deriving DecidableEq, Repr

/-- The arguments of a command on the way. -/
structure Draft where
  arguments : CompileArguments := {}
  async : Bool := false
  verbosity : Nat := 0
  names : List String := []

namespace Draft

/-- An option that may be given once, with a path that is not empty. -/
def setPath (old : Option Path) (text : String) : Except Request (Option Path) :=
  if old.isSome ∨ text = "" then .error .usageError else .ok (some (.ofText text))

/-- An option that adds a path that is not empty. -/
def addPath (paths : List Path) (text : String) : Except Request (List Path) :=
  if text = "" then .error .usageError else .ok (paths ++ [.ofText text])

def addValue (draft : Draft) (option : Opt) (text : String) : Except Request Draft :=
  let arguments := draft.arguments
  match option with
  | .config => do
    return { draft with arguments := { arguments with config := ← setPath arguments.config text } }
  | .libPath => do
    return { draft with
      arguments := { arguments with libPath := ← setPath arguments.libPath text } }
  | .includePath => do
    return { draft with
      arguments := { arguments with includePaths := ← addPath arguments.includePaths text } }
  | .libraryPath => do
    return { draft with
      arguments := { arguments with libraryPaths := ← addPath arguments.libraryPaths text } }
  | .library =>
    .ok { draft with
      arguments := { arguments with libraries := arguments.libraries ++ [text] } }
  | .define =>
    .ok { draft with arguments := { arguments with defines := arguments.defines ++ [text] } }
  | _ => .error .usageError

def addPositional (name : CommandName) (draft : Draft) (text : String) : Except Request Draft :=
  if name = .version then .error .usageError
  else
    match draft.arguments.file with
    | none => do
      return { draft with arguments := { draft.arguments with file := ← setPath none text } }
    | some _ =>
      if name = .symbols then .ok { draft with names := draft.names ++ [text] }
      else .error .usageError

def add (name : CommandName) (draft : Draft) : Item → Except Request Draft
  | .mistake => .error .usageError
  | .positional text => draft.addPositional name text
  | .value option text => draft.addValue option text
  | .flag .verbose => .ok { draft with verbosity := draft.verbosity + 1 }
  | .flag .async =>
    if draft.async then .error .usageError else .ok { draft with async := true }
  | .flag .help => .error (.showHelp (.command name))
  | .flag _ => .error .usageError

/-- The command, if all that it needs was given. -/
def command? (name : CommandName) (draft : Draft) : Option Command :=
  match name, draft.arguments.file with
  | .version, _ => some .version
  | .run, some file => some (.run file draft.arguments draft.async)
  | .symbols, some file =>
    if draft.names = [] then none else some (.symbols file draft.arguments draft.names)
  | _, none => none

end Draft

/-- Reads the arguments behind the command.  Verbosity that is asked for there replaces what was
asked for in front of the command. -/
def readCommand (name : CommandName) (verbosity : Nat) (arguments : List String) : Request :=
  match (readItems name.options arguments).foldlM (Draft.add name) {} with
  | .error request => request
  | .ok draft =>
    match draft.command? name with
    | none => .usageError
    | some command =>
      .execute command (if draft.verbosity = 0 then verbosity else draft.verbosity)

/-- Reads the words behind the command that shows help. -/
def readTopic : List String → Request
  | [] => .showHelp .program
  | [word] =>
    match Topic.ofText? word with
    | some topic => .showHelp topic
    | none => .usageError
  | _ => .usageError

def readFront (verbosity : Nat) : List Item → Except Request Nat
  | [] => .ok verbosity
  | .flag .verbose :: rest => readFront (verbosity + 1) rest
  | .flag .help :: _ => .error (.showHelp .program)
  | .flag .version :: _ => .error .showVersion
  | _ => .error .usageError

/-- Reads all arguments; so many times verbosity was asked for already. -/
def readRequest (verbosity : Nat) : List String → Request
  | [] => .usageError
  | argument :: rest =>
    if argument = "--" then .usageError
    else if looksLikeOption argument then
      match readFront verbosity (readOption frontOptions argument).1 with
      | .error request => request
      | .ok verbosity => readRequest verbosity rest
    else if argument = "help" then readTopic rest
    else
      match CommandName.ofText? argument with
      | some name => readCommand name verbosity rest
      | none => .usageError

def Request.ofArguments (arguments : List String) : Request :=
  readRequest 0 arguments

end CompileSession.CommandLine
