import CompileSession.Text.Column
import CompileSession.Text.Quoted

/-!
# Log events and the logger

An event has a level, a message and named fields.  A logger writes, one line each, the events that
are at least as severe as its threshold; the first threshold that is set stays.
-/

namespace CompileSession.Log

/-- How severe an event is. -/
inductive Level where
  | trace
  | debug
  | info
  | warn
  | error
deriving DecidableEq, Repr

namespace Level

def rank : Level → Nat
  | .trace => 0
  | .debug => 1
  | .info => 2
  | .warn => 3
  | .error => 4

def tag : Level → String
  | .trace => "TRACE"
  | .debug => "DEBUG"
  | .info => "INFO"
  | .warn => "WARN"
  | .error => "ERROR"

def label : Level → String
  | .trace => "Trace"
  | .debug => "Debug"
  | .info => "Info"
  | .warn => "Warn"
  | .error => "Error"

/-- Whether a logger with this threshold writes events of a level. -/
def admits (threshold level : Level) : Bool :=
  threshold.rank ≤ level.rank

/-- The threshold for how often verbosity was asked for. -/
def ofVerbosity : Nat → Level
  | 0 => .warn
  | 1 => .info
  | 2 => .debug
  | _ => .trace

end Level

/-- The value of an event's field. -/
inductive Value where
  | number (value : Int)
  | text (value : String)
  | word (value : String)
deriving DecidableEq, Repr

namespace Value

def plain : Value → String
  | .number value => toString value
  | .text value => value
  | .word value => value

def written : Value → String
  | .text value => Text.quoted value
  | value => value.plain

end Value

/-- A character of a message as a logger writes it: those that terminals take for commands are
spelled out. -/
def writtenChar (c : Char) : String :=
  if c ∈ ['\x07', '\x08', '\x0c', '\x1b', '\x7f'] then "\\x" ++ Text.hexPadded 2 c.toNat
  else if 0x80 ≤ c.toNat ∧ c.toNat < 0xA0 then
    "\\u\x7b" ++ Text.hexDigits c.toNat ++ "\x7d"
  else c.toString

def writtenMessage (message : String) : String :=
  String.join (message.toList.map writtenChar)

/-- Something worth telling about a run. -/
structure Event where
  level : Level
  message : String
  fields : List (String × Value) := []
deriving DecidableEq, Repr

def Event.line (event : Event) : String :=
  Text.alignRight 5 event.level.tag ++ " " ++ writtenMessage event.message ++
    String.join (event.fields.map fun field => " " ++ field.1 ++ "=" ++ field.2.written) ++ "\n"

/-- An event on one line, with its fields as they are. -/
def Event.plain (event : Event) : String :=
  event.level.tag ++ " " ++ event.message ++
    String.join (event.fields.map fun field => " " ++ field.1 ++ "=" ++ field.2.plain)

/-- A process's logger; before it is set up nothing is written. -/
structure Logger where
  threshold : Option Level := none
deriving DecidableEq, Repr

namespace Logger

/-- Sets the threshold unless one is set already. -/
def install (logger : Logger) (level : Level) : Logger :=
  { threshold := some (logger.threshold.getD level) }

def write (logger : Logger) (events : List Event) : String :=
  match logger.threshold with
  | none => ""
  | some threshold =>
      String.join ((events.filter fun event => threshold.admits event.level).map Event.line)

end Logger

end CompileSession.Log
