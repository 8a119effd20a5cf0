import CompileSession.Toml.Document
import CompileSession.Toml.Number
import CompileSession.Toml.Quoted

/-!
# TOML documents: reading

From text to the lines of a document, and on to its tables.  There is no account of where and why
a text is not a document: it is one or it is not.
-/

namespace CompileSession.Toml

def skipSpaces : List Char → List Char
  | ' ' :: rest => skipSpaces rest
  | '\t' :: rest => skipSpaces rest
  | input => input

def skipBlanks (inComment : Bool) : List Char → Option (List Char)
  | [] => some []
  | '\r' :: '\n' :: rest => skipBlanks false rest
  | c :: rest =>
    if c = '\n' then skipBlanks false rest
    else if inComment then if isPlain c then skipBlanks true rest else none
    else if c = ' ' ∨ c = '\t' then skipBlanks false rest
    else if c = '#' then skipBlanks true rest
    else some (c :: rest)

/-- Skips the rest of a line, on which nothing but blanks and a comment may stand. -/
def skipLineEnd (inComment : Bool) : List Char → Option (List Char)
  | [] => some []
  | '\r' :: '\n' :: rest => some rest
  | c :: rest =>
    if c = '\n' then some rest
    else if inComment then if isPlain c then skipLineEnd true rest else none
    else if c = ' ' ∨ c = '\t' then skipLineEnd false rest
    else if c = '#' then skipLineEnd true rest
    else none

/-- Whether a character may stand in a key without quotes. -/
def isBareKeyChar (c : Char) : Bool :=
  isDigit c || ('a' ≤ c && c ≤ 'z') || ('A' ≤ c && c ≤ 'Z') || c = '_' || c = '-'

def readSimpleKey : Reader String := fun input =>
  match input.span isBareKeyChar with
  | ([], _) => (readLineString input).map fun (key, rest) => (String.ofList key, rest)
  | (key, rest) => some (String.ofList key, rest)

/-- How deep a key or a value may be nested, this number excluded. -/
def depthLimit : Nat := 80

/-- Reads the parts of a dotted key and the blanks around them; `parts` bounds their number. -/
def readParts : (parts : Nat) → Reader (List String)
  | 0, _ => none
  | parts + 1, input => do
    let (key, rest) ← readSimpleKey (skipSpaces input)
    match skipSpaces rest with
    | '.' :: rest => (readParts parts rest).map fun (keys, rest) => (key :: keys, rest)
    | rest => some ([key], rest)

/-- Reads a dotted key: the path and the last part. -/
def readKey : Reader (List String × String) := fun input => do
  let (keys, rest) ← readParts (depthLimit - 1) input
  some ((keys.dropLast, ← keys.getLast?), rest)

/-- Reads the items of an array up to its closing bracket. -/
def readItems (readItem : Reader Value) (input : List Char) : Option (List Value × List Char) :=
  match skipBlanks false input with
  | none => none
  | some (']' :: rest) => some ([], rest)
  | some start =>
    match readItem start with
    | none => none
    | some (item, rest) =>
      match skipBlanks false rest with
      | some (']' :: rest) => some ([item], rest)
      | some (',' :: rest) =>
        if rest.length < input.length then
          (readItems readItem rest).map fun (items, rest) => (item :: items, rest)
        else none
      | _ => none
termination_by input.length

def readPair (readItem : Reader Value) : Reader (List String × String × Value) := fun input => do
  let ((path, key), rest) ← readKey input
  let rest ← dropChar '=' rest
  let (value, rest) ← readItem (skipSpaces rest)
  some ((path, key, value), rest)

/-- Reads the pairs of a table in braces, of which there is at least one, up to the closing
brace. -/
def readPairs (readItem : Reader Value) (input : List Char) :
    Option (List (List String × String × Value) × List Char) :=
  match readPair readItem input with
  | none => none
  | some (pair, rest) =>
    match skipSpaces rest with
    | '\x7d' :: rest => some ([pair], rest)
    | ',' :: rest =>
      if rest.length < input.length then
        (readPairs readItem rest).map fun (pairs, rest) => (pair :: pairs, rest)
      else none
    | _ => none
termination_by input.length

/-- Reads a table in braces, behind the opening brace. -/
def readInlineTable (readItem : Reader Value) : Reader Value := fun input =>
  match skipSpaces input with
  | '\x7d' :: rest => some (.table [], rest)
  | start => do
    let (pairs, rest) ← readPairs readItem start
    some (← inlineTable? pairs, rest)

/-- Reads a value; `depth` counts how many brackets may still be opened, and one. -/
def readValue : (depth : Nat) → Reader Value
  | 0, _ => none
  | depth + 1, input =>
    match input with
    | '[' :: rest =>
      if depth = 0 then none
      else (readItems (readValue depth) rest).map fun (items, rest) => (.array items, rest)
    | '\x7b' :: rest => if depth = 0 then none else readInlineTable (readValue depth) rest
    | c :: rest =>
      if c = '"' ∨ c = '\'' then
        (readString (c :: rest)).map fun (text, rest) => (.string (String.ofList text), rest)
      else readWord (c :: rest)
    | [] => none

/-- Reads one line that is not blank, up to the start of the next line. -/
def readLine : Reader Line := fun input =>
  match input with
  | '[' :: '[' :: rest => do
    let ((path, key), rest) ← readKey rest
    let rest ← skipLineEnd false (← dropChar ']' (← dropChar ']' rest))
    some (.element path key, rest)
  | '[' :: rest => do
    let ((path, key), rest) ← readKey rest
    let rest ← skipLineEnd false (← dropChar ']' rest)
    some (.table path key, rest)
  | input => do
    let ((path, key, value), rest) ← readPair (readValue depthLimit) input
    some (.keyValue path key value, ← skipLineEnd false rest)

/-- Reads the lines of a document, blank ones left out. -/
def readLines (input : List Char) : Option (List Line) :=
  match skipBlanks false input with
  | none => none
  | some [] => some []
  | some start =>
    match readLine start with
    | none => none
    | some (line, rest) =>
      if rest.length < input.length then (readLines rest).map (line :: ·) else none
termination_by input.length

/-- A mark that may stand at the very start of a text. -/
def dropByteOrderMark : List Char → List Char
  | '\ufeff' :: rest => rest
  | input => input

/-- The table that a text spells, if it is a document. -/
def parse? (text : String) : Option Entries := do
  document? (← readLines (dropByteOrderMark text.toList))

end CompileSession.Toml
