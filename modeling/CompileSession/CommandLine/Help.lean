import CompileSession.CommandLine.Arguments
import CompileSession.Text.Column

/-!
# Help

The texts that describe the program and its commands.
-/

namespace CompileSession.CommandLine

def programName : String := "tcc-session"

def programVersion : String := "0.3.2"

def fillRight (width : Nat) (text : String) : String :=
  String.ofList (text.toList ++ List.replicate (width - text.length) ' ')

/-- Rows of two columns, of which the first is as wide as its longest text. -/
def columns (rows : List (String × String)) : List String :=
  let width := (rows.map (·.1.length)).foldl max 0
  rows.map fun row => "  " ++ fillRight width row.1 ++ "  " ++ row.2

/-- An option with its value, and what it is for. -/
def Opt.row : Opt → String × String
  | .verbose => ("-v, --verbose...", "Increase log verbosity (-v info, -vv debug, -vvv trace)")
  | .help => ("-h, --help", "Print help")
  | .version => ("-V, --version", "Print version")
  | .config => ("    --config <PATH>", "Config file (defaults to the user config)")
  | .libPath => ("    --lib-path <DIR>", "Runtime library directory")
  | .includePath => ("-I <DIR>", "Include directory")
  | .libraryPath => ("-L <DIR>", "Library directory")
  | .library => ("-l <NAME>", "Library to link")
  | .define => ("-D <NAME[=VALUE]>", "Preprocessor definition")
  | .async => ("    --async", "Compile on the session's worker pool")

namespace CommandName

def summary : CommandName → String
  | .run => "Compile a file and run its main; exits with main's status"
  | .symbols => "Compile a file and print the addresses of symbols"
  | .version => "Print version information"

/-- The positional arguments of a command, and what they are for. -/
def positionals : CommandName → List (String × String)
  | .run => [("<FILE>", "C source file")]
  | .symbols => [("<FILE>", "C source file"), ("<NAME>...", "Symbol names to resolve")]
  | .version => []

def help (name : CommandName) : List String :=
  let positionals := name.positionals
  let usage := "Usage: " ++ programName ++ " " ++ name.text ++ " [OPTIONS]" ++
    String.join (positionals.map fun row => " " ++ row.1)
  let arguments := if positionals = [] then [] else "Arguments:" :: columns positionals ++ [""]
  [name.summary, "", usage, ""] ++ arguments ++ "Options:" :: columns (name.options.map Opt.row)

end CommandName

def helpSummary : String := "Print this message or the help of the given subcommand(s)"

def programHelp : List String :=
  let commands := [CommandName.run, .symbols, .version].map fun name => (name.text, name.summary)
  [programName, "", "Usage: " ++ programName ++ " [OPTIONS] <COMMAND>", "", "Commands:"] ++
    columns (commands ++ [("help", helpSummary)]) ++
    ["", "Options:"] ++ columns (frontOptions.map Opt.row)

def helpHelp : List String :=
  [helpSummary, "", "Usage: " ++ programName ++ " help [COMMAND]...", "", "Arguments:"] ++
    columns [("[COMMAND]...", "Print help for the subcommand(s)")]

def Topic.lines : Topic → List String
  | .program => programHelp
  | .command name => name.help
  | .help => helpHelp

def Topic.text (topic : Topic) : String :=
  String.join (topic.lines.map (· ++ "\n"))

def versionText : String :=
  programName ++ " " ++ programVersion ++ "\n"

end CompileSession.CommandLine
