import CompileSession.Text.Column
import CompileSession.Toml.Parser

/-!
# TOML documents: writing

Strings are written in the plainest notation that needs no escapes, keys without quotes where that
is possible, and arrays of two or more items with one item on each line.
-/

namespace CompileSession.Toml

/-- How a string may be written. -/
inductive StringStyle where
  | basic
  | literal
  | basicBlock
  | literalBlock
deriving DecidableEq, Repr

/-- The length of the longest run of a character; `run` counts those just before. -/
def longestRun (c : Char) (run : Nat) : List Char → Nat
  | [] => run
  | d :: rest => if d = c then longestRun c (run + 1) rest else max run (longestRun c 0 rest)

/-- Whether a character must be escaped wherever it stands. -/
def isControl (c : Char) : Bool :=
  (c.toNat < 32 && c ≠ '\t' && c ≠ '\n') || c.toNat = 127

/-- The style of a string: the first that can hold it without escapes, in the order basic, literal,
basic over several lines, literal over several lines; failing that a basic style, over several
lines if the text has several. -/
def StringStyle.of (text : List Char) : StringStyle :=
  let controls := text.any isControl
  let backslashes := text.contains '\\'
  let lines := text.contains '\n'
  let singles := longestRun '\'' 0 text
  let doubles := longestRun '"' 0 text
  if !controls && !backslashes && doubles = 0 && !lines then .basic
  else if !controls && singles = 0 && !lines then .literal
  else if !controls && !backslashes && doubles ≤ 2 then .basicBlock
  else if !controls && singles ≤ 2 then .literalBlock
  else if lines then .basicBlock
  else .basic

def upperHexDigit (n : Nat) : Char :=
  if n < 10 then Char.ofNat (48 + n) else Char.ofNat (55 + n)

/-- The escape of a character that has none of its own: its code point in four digits. -/
def numericEscape (c : Char) : List Char :=
  let n := c.toNat
  ['\\', 'u', upperHexDigit (n / 4096 % 16), upperHexDigit (n / 256 % 16),
    upperHexDigit (n / 16 % 16), upperHexDigit (n % 16)]

/-- A character, other than a quote, of a string in a basic style. -/
def writeBasicChar (block : Bool) (c : Char) : List Char :=
  if c = '\x08' then ['\\', 'b']
  else if c = '\t' then ['\\', 't']
  else if c = '\n' then if block then ['\n'] else ['\\', 'n']
  else if c = '\x0c' then ['\\', 'f']
  else if c = '\r' then ['\\', 'r']
  else if c = '\\' then ['\\', '\\']
  else if isControl c then numericEscape c
  else [c]

/-- The characters of a string in a basic style.  A quote is escaped, except that over several
lines two in a row stay as they are; `run` counts the quotes just before. -/
def writeBasic (block : Bool) (run : Nat) : List Char → List Char
  | [] => []
  | c :: rest =>
    if c = '"' then
      if block && run < 2 then '"' :: writeBasic block (run + 1) rest
      else '\\' :: '"' :: writeBasic block 0 rest
    else writeBasicChar block c ++ writeBasic block 0 rest

/-- A line end behind the opening quotes of a text that has line ends. -/
def firstLineEnd (text : List Char) : List Char :=
  if text.contains '\n' then ['\n'] else []

def writeStyled (style : StringStyle) (text : List Char) : List Char :=
  match style with
  | .basic => '"' :: writeBasic false 0 text ++ ['"']
  | .literal => '\'' :: text ++ ['\'']
  | .basicBlock =>
    ['"', '"', '"'] ++ firstLineEnd text ++ writeBasic true 0 text ++ ['"', '"', '"']
  | .literalBlock => ['\'', '\'', '\''] ++ firstLineEnd text ++ text ++ ['\'', '\'', '\'']

def writeString (text : List Char) : List Char :=
  writeStyled (StringStyle.of text) text

/-- A key: without quotes if that is possible, else in the plainest quotes on one line. -/
def writeKey (key : List Char) : List Char :=
  let controls := key.any fun c => isControl c || c = '\n'
  if key ≠ [] && key.all isBareKeyChar then key
  else if !controls && !key.contains '\\' && !key.contains '"' then writeStyled .basic key
  else if !controls && !key.contains '\'' then writeStyled .literal key
  else writeStyled .basic key

def writeArray : List (List Char) → List Char
  | [] => ['[', ']']
  | [item] => '[' :: writeString item ++ [']']
  | items =>
    ['[', '\n'] ++ items.flatMap (fun item => "    ".toList ++ writeString item ++ [',', '\n']) ++
      [']']

/-- A line that gives a key its value, which is written already. -/
def writePair (key : String) (value : List Char) : List Char :=
  writeKey key.toList ++ [' ', '=', ' '] ++ value ++ ['\n']

end CompileSession.Toml
