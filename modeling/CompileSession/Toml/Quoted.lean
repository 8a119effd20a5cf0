import CompileSession.Toml.Value

/-!
# TOML strings: reading

The four notations of a string.  Basic strings know escapes and literal strings do not; each has a
form that may span lines.  In the forms that span lines up to two quotes of the string's own kind
may stand inside, also right before the closing three.

Every reader starts behind the opening quotes.
-/

namespace CompileSession.Toml

/-- Whether a character may stand as it is in a comment and, quotes and backslashes apart, in a
string. -/
def isPlain (c : Char) : Bool :=
  c = '\t' || (32 ≤ c.toNat && c.toNat ≠ 127)

def hexValue? (c : Char) : Option Nat :=
  if '0' ≤ c ∧ c ≤ '9' then some (c.toNat - 48)
  else if 'a' ≤ c ∧ c ≤ 'f' then some (c.toNat - 87)
  else if 'A' ≤ c ∧ c ≤ 'F' then some (c.toNat - 55)
  else none

/-- The character with a code point, if there is one. -/
def scalar? (code : Nat) : Option Char :=
  if valid : code.isValidChar then some (Char.ofNatAux code valid) else none

/-- The character that a backslash and a letter stand for. -/
def shortEscape? (c : Char) : Option Char :=
  if c = 'b' then some '\x08'
  else if c = 't' then some '\t'
  else if c = 'n' then some '\n'
  else if c = 'f' then some '\x0c'
  else if c = 'r' then some '\r'
  else if c = '"' then some '"'
  else if c = '\\' then some '\\'
  else none

/-- Where a reader of a basic string stands. -/
inductive BasicState where
  /-- Between characters. -/
  | open
  /-- Behind a backslash. -/
  | escaped
  /-- In a numeric escape of which `left + 1` digits are missing and the others make `code`. -/
  | code (left : Nat) (code : Nat)

/-- The state behind a backslash and `c`, and what was written by the two. -/
def BasicState.afterEscape (c : Char) : Option (List Char × BasicState) :=
  if c = 'u' then some ([], .code 3 0)
  else if c = 'U' then some ([], .code 7 0)
  else (shortEscape? c).map fun written => ([written], .open)

/-- The state behind one more digit of a numeric escape, and what was written by it. -/
def BasicState.afterDigit (left code : Nat) (c : Char) : Option (List Char × BasicState) :=
  match hexValue? c with
  | none => none
  | some digit =>
    match left with
    | 0 => (scalar? (code * 16 + digit)).map fun written => ([written], .open)
    | left + 1 => some ([], .code left (code * 16 + digit))

/-- The characters of a basic string on one line. -/
def readBasic : BasicState → Reader (List Char)
  | _, [] => none
  | .open, c :: rest =>
    if c = '"' then some ([], rest)
    else if c = '\\' then readBasic .escaped rest
    else if isPlain c then (readBasic .open rest).map fun (text, rest) => (c :: text, rest)
    else none
  | .escaped, c :: rest =>
    match BasicState.afterEscape c with
    | none => none
    | some (written, state) =>
      (readBasic state rest).map fun (text, rest) => (written ++ text, rest)
  | .code left code, c :: rest =>
    match BasicState.afterDigit left code c with
    | none => none
    | some (written, state) =>
      (readBasic state rest).map fun (text, rest) => (written ++ text, rest)

/-- The characters of a literal string on one line. -/
def readLiteral : Reader (List Char)
  | [] => none
  | c :: rest =>
    if c = '\'' then some ([], rest)
    else if isPlain c then (readLiteral rest).map fun (text, rest) => (c :: text, rest)
    else none

/-- Where a reader of a basic string over several lines stands. -/
inductive BlockState where
  /-- Somewhere in the string, as in a basic string on one line. -/
  | inside (state : BasicState)
  /-- Behind this many quotes. -/
  | quotes (count : Nat)
  /-- Behind a carriage return, which must be followed by a line feed. -/
  | carriage
  /-- Behind a backslash and blanks, which must be followed by the end of the line. -/
  | dangling
  /-- Likewise, and behind a carriage return. -/
  | danglingCarriage
  /-- In the blanks and line ends that a backslash at the end of a line removes. -/
  | skipping
  /-- Likewise, and behind a carriage return. -/
  | skippingCarriage

/-- One character between characters of a string over several lines. -/
def BlockState.afterOpen (c : Char) : Option (List Char × BlockState) :=
  if c = '"' then some ([], .quotes 1)
  else if c = '\\' then some ([], .inside .escaped)
  else if c = '\r' then some ([], .carriage)
  else if c = '\n' || isPlain c then some ([c], .inside .open)
  else none

/-- One character further, and what was written by it; the end of the string is not seen here. -/
def BlockState.after (c : Char) : BlockState → Option (List Char × BlockState)
  | .inside .open => BlockState.afterOpen c
  | .inside .escaped =>
    if c = ' ' ∨ c = '\t' then some ([], .dangling)
    else if c = '\n' then some ([], .skipping)
    else if c = '\r' then some ([], .danglingCarriage)
    else (BasicState.afterEscape c).map fun (written, state) => (written, .inside state)
  | .inside (.code left code) =>
    (BasicState.afterDigit left code c).map fun (written, state) => (written, .inside state)
  | .quotes count =>
    if c = '"' then some ([], .quotes (count + 1))
    else
      (BlockState.afterOpen c).map fun (written, state) =>
        (List.replicate count '"' ++ written, state)
  | .carriage => if c = '\n' then some (['\n'], .inside .open) else none
  | .dangling =>
    if c = ' ' ∨ c = '\t' then some ([], .dangling)
    else if c = '\n' then some ([], .skipping)
    else if c = '\r' then some ([], .danglingCarriage)
    else none
  | .danglingCarriage => if c = '\n' then some ([], .skipping) else none
  | .skipping =>
    if c = ' ' ∨ c = '\t' ∨ c = '\n' then some ([], .skipping)
    else if c = '\r' then some ([], .skippingCarriage)
    else BlockState.afterOpen c
  | .skippingCarriage => if c = '\n' then some ([], .skipping) else none

/-- How many quotes of a string are its last characters, if it ends before `next`: three quotes
close it, and up to two more belong to it. -/
def closingQuotes? (quote : Char) (next : Option Char) (count : Nat) : Option Nat :=
  if 3 ≤ count ∧ (next ≠ some quote ∨ count = 5) then some (count - 3) else none

/-- How many quotes of its own kind a state has just seen. -/
def BlockState.seenQuotes : BlockState → Nat
  | .quotes count => count
  | _ => 0

/-- The characters of a basic string over several lines. -/
def readBasicBlock (state : BlockState) (input : List Char) : Option (List Char × List Char) :=
  match closingQuotes? '"' input.head? state.seenQuotes with
  | some own => some (List.replicate own '"', input)
  | none =>
    match input with
    | [] => none
    | c :: rest =>
      match state.after c with
      | none => none
      | some (written, state) =>
        (readBasicBlock state rest).map fun (text, rest) => (written ++ text, rest)

/-- The characters of a literal string over several lines; `seen` counts the quotes just before,
and a carriage return is dropped, which must be followed by a line feed. -/
def readLiteralBlock (seen : Nat) (input : List Char) : Option (List Char × List Char) :=
  match closingQuotes? '\'' input.head? seen with
  | some own => some (List.replicate own '\'', input)
  | none =>
    match input with
    | [] => none
    | c :: rest =>
      if c = '\'' then readLiteralBlock (seen + 1) rest
      else if c = '\r' then
        if rest.head? = some '\n' then
          (readLiteralBlock 0 rest).map fun (text, rest) =>
            (List.replicate seen '\'' ++ text, rest)
        else none
      else if c = '\n' || isPlain c then
        (readLiteralBlock 0 rest).map fun (text, rest) =>
          (List.replicate seen '\'' ++ c :: text, rest)
      else none

/-- A line end right behind the opening quotes does not belong to the string. -/
def dropFirstLineEnd : List Char → List Char
  | '\n' :: rest => rest
  | '\r' :: '\n' :: rest => rest
  | input => input

def readLineString : Reader (List Char)
  | '"' :: rest => readBasic .open rest
  | '\'' :: rest => readLiteral rest
  | _ => none

def readString : Reader (List Char)
  | '"' :: '"' :: '"' :: rest => readBasicBlock (.inside .open) (dropFirstLineEnd rest)
  | '\'' :: '\'' :: '\'' :: rest => readLiteralBlock 0 (dropFirstLineEnd rest)
  | input => readLineString input

end CompileSession.Toml
