import CompileSession.Text.Column
import CompileSession.Toml.Value

/-!
# TOML numbers, dates and times: reading

A word without quotes is a truth value, an integer, a floating-point number, or a date and time.
Underscores may stand between two digits of a number.
-/

namespace CompileSession.Toml

def isDigit (c : Char) : Bool :=
  '0' ≤ c && c ≤ '9'

/-- The value of a digit in a base up to sixteen. -/
def digitValue? (base : Nat) (c : Char) : Option Nat :=
  let value :=
    if isDigit c then c.toNat - 48
    else if 'a' ≤ c ∧ c ≤ 'f' then c.toNat - 87
    else if 'A' ≤ c ∧ c ≤ 'F' then c.toNat - 55
    else 16
  if value < base then some value else none

/-- The values of at least one digit, without the single underscores between them. -/
def digits? (base : Nat) : List Char → Option (List Nat)
  | [] => none
  | [c] => (digitValue? base c).map ([·])
  | c :: '_' :: rest => do some ((← digitValue? base c) :: (← digits? base rest))
  | c :: rest => do some ((← digitValue? base c) :: (← digits? base rest))

def numberOf (base : Nat) (digits : List Nat) : Nat :=
  digits.foldl (fun number digit => number * base + digit) 0

/-- Splits a sign off; the first part says whether it is a minus. -/
def splitSign : List Char → Bool × List Char
  | '-' :: rest => (true, rest)
  | '+' :: rest => (false, rest)
  | word => (false, word)

/-- The digits of a decimal number that has no zero in front. -/
def decimalDigits? (word : List Char) : Option (List Nat) := do
  let digits ← digits? 10 word
  if digits.head? = some 0 ∧ word.length ≠ 1 then none else some digits

/-- An integer, unless it needs more than 64 bits. -/
def fitInteger? (value : Int) : Option Value :=
  let bound : Int := Nat.pow 2 63
  if -bound ≤ value ∧ value < bound then some (.integer value) else none

def integer? : List Char → Option Value
  | '0' :: 'x' :: word => (digits? 16 word).bind fun digits => fitInteger? (numberOf 16 digits)
  | '0' :: 'o' :: word => (digits? 8 word).bind fun digits => fitInteger? (numberOf 8 digits)
  | '0' :: 'b' :: word => (digits? 2 word).bind fun digits => fitInteger? (numberOf 2 digits)
  | word => do
    let (negative, word) := splitSign word
    let number := numberOf 10 (← decimalDigits? word)
    fitInteger? (if negative then -number else number)

/-- The largest exponent that is told apart from larger ones. -/
def exponentLimit : Nat := 1000000

/-- Reads what stands behind the letter of an exponent. -/
def exponent? (word : List Char) : Option Int := do
  let (negative, word) := splitSign word
  let number := min exponentLimit (numberOf 10 (← digits? 10 word))
  some (if negative then -number else number)

/-- Reads a word as a floating-point number; one that is too large is refused unless it is
negative, and then stands for negative infinity. -/
def float? (word : List Char) : Option Value := do
  let (negative, word) := splitSign word
  if word = ['i', 'n', 'f'] then some (.float (.infinity negative))
  else if word = ['n', 'a', 'n'] then some (.float (.nan negative))
  else
    let isMark (c : Char) : Bool := c = 'e' || c = 'E'
    let (mantissa, power) := word.span fun c => !isMark c
    let (whole, fraction) := mantissa.span fun c => c ≠ '.'
    let wholeDigits ← decimalDigits? whole
    let fractionDigits ← match fraction with
      | [] => some []
      | _ :: fraction => digits? 10 fraction
    let exponent ← match power with
      | [] => some 0
      | _ :: power => exponent? power
    if fraction = [] ∧ power = [] then none
    else
      let digits := wholeDigits ++ fractionDigits
      let number := Binary64.ofDecimal negative (numberOf 10 digits)
        (exponent - fractionDigits.length) digits.length
      if number = .infinity false then none else some (.float number)

/-- Reads exactly `count` digits off the front of a word. -/
def takeDigits (count : Nat) (word : List Char) : Option (Nat × List Char) := do
  let front := word.take count
  if front.length = count ∧ front.all isDigit then
    some (numberOf 10 (front.map fun c => c.toNat - 48), word.drop count)
  else none

/-- Drops one given character off the front of a word. -/
def dropChar (c : Char) : List Char → Option (List Char)
  | first :: rest => if first = c then some rest else none
  | [] => none

def monthLength (year month : Nat) : Nat :=
  if month = 2 then
    if year % 4 = 0 ∧ (year % 100 ≠ 0 ∨ year % 400 = 0) then 29 else 28
  else if month = 4 ∨ month = 6 ∨ month = 9 ∨ month = 11 then 30
  else 31

/-- Reads a date and writes it in its normal spelling. -/
def readDate : Reader String := fun word => do
  let (year, word) ← takeDigits 4 word
  let (month, word) ← takeDigits 2 (← dropChar '-' word)
  let (day, word) ← takeDigits 2 (← dropChar '-' word)
  if 1 ≤ month ∧ month ≤ 12 ∧ 1 ≤ day ∧ day ≤ monthLength year month then
    some (Text.decimalPadded 4 year ++ "-" ++ Text.decimalPadded 2 month ++ "-" ++
      Text.decimalPadded 2 day, word)
  else none

/-- The digits of a fraction of a second that count, without zeros at the end. -/
def secondFraction (digits : List Char) : String :=
  let kept := ((digits.take 9).reverse.dropWhile (· = '0')).reverse
  if kept = [] then "" else "." ++ String.ofList kept

/-- Reads a time of day and writes it in its normal spelling. -/
def readTime : Reader String := fun word => do
  let (hour, word) ← takeDigits 2 word
  let (minute, word) ← takeDigits 2 (← dropChar ':' word)
  let (second, word) ← takeDigits 2 (← dropChar ':' word)
  let (fraction, word) ← match word with
    | '.' :: word =>
      let (digits, rest) := word.span isDigit
      if digits = [] then none else some (secondFraction digits, rest)
    | _ => some ("", word)
  if hour ≤ 23 ∧ minute ≤ 59 ∧ second ≤ 60 then
    some (Text.decimalPadded 2 hour ++ ":" ++ Text.decimalPadded 2 minute ++ ":" ++
      Text.decimalPadded 2 second ++ fraction, word)
  else none

/-- Reads a whole word as an offset from universal time, which may be missing. -/
def offset? : List Char → Option String
  | [] => some ""
  | ['Z'] => some "Z"
  | ['z'] => some "Z"
  | sign :: word => do
    let (hour, word) ← takeDigits 2 word
    let (minute, word) ← takeDigits 2 (← dropChar ':' word)
    if (sign = '+' ∨ sign = '-') ∧ hour ≤ 23 ∧ minute ≤ 59 ∧ word = [] then
      let shown := if sign = '-' ∧ (hour ≠ 0 ∨ minute ≠ 0) then "-" else "+"
      some (shown ++ Text.decimalPadded 2 hour ++ ":" ++ Text.decimalPadded 2 minute)
    else none

/-- Whether a character stands between a date and a time. -/
def isTimeMark (c : Char) : Bool :=
  c = 'T' || c = 't' || c = ' '

/-- Reads a word as a date, a time of day, or both. -/
def datetime? (word : List Char) : Option Value :=
  match readDate word with
  | some (date, []) => some (.datetime date)
  | some (date, mark :: rest) =>
    if isTimeMark mark then do
      let (time, rest) ← readTime rest
      some (.datetime (date ++ "T" ++ time ++ (← offset? rest)))
    else none
  | none =>
    match readTime word with
    | some (time, []) => some (.datetime time)
    | _ => none

/-- Whether a character may belong to a word without quotes. -/
def isWordChar (c : Char) : Bool :=
  isDigit c || ('a' ≤ c && c ≤ 'z') || ('A' ≤ c && c ≤ 'Z') || c = '_' || c = '+' || c = '-' ||
    c = '.' || c = ':'

/-- The word at the front of a text.  A date and a time may stand apart by one space. -/
def splitWord (input : List Char) : List Char × List Char :=
  let (word, rest) := input.span isWordChar
  match (readDate word).map Prod.snd, rest with
  | some [], ' ' :: next :: _ =>
    if isDigit next then
      let (time, behind) := (rest.drop 1).span isWordChar
      (word ++ ' ' :: time, behind)
    else (word, rest)
  | _, _ => (word, rest)

def readWord : Reader Value := fun input =>
  let (word, rest) := splitWord input
  let value? :=
    if word = ['t', 'r', 'u', 'e'] then some (Value.boolean true)
    else if word = ['f', 'a', 'l', 's', 'e'] then some (Value.boolean false)
    else (integer? word).orElse fun _ => (datetime? word).orElse fun _ => float? word
  value?.map fun value => (value, rest)

end CompileSession.Toml
