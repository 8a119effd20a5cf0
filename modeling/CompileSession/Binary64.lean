/-!
# Floating-point numbers of 64 bits

Decimal numbers are rounded to the nearest number of 53 significant bits, a tie going to the even
one, and are written with the fewest digits that read back as the same number.  All arithmetic is
exact.
-/

namespace CompileSession

/-- A floating-point number by its bits: sign, eleven bits of exponent, 52 bits of fraction. -/
structure Binary64 where
  bits : UInt64
deriving DecidableEq, Repr

namespace Binary64

def infinityBits : Nat := 0x7FF0000000000000

def ofMagnitude (negative : Bool) (magnitude : Nat) : Binary64 :=
  ⟨UInt64.ofNat (if negative then magnitude + Nat.pow 2 63 else magnitude)⟩

def infinity (negative : Bool) : Binary64 :=
  ofMagnitude negative infinityBits

def nan (negative : Bool) : Binary64 :=
  ofMagnitude negative 0x7FF8000000000000

/-- The quotient of two numbers rounded to the nearest integer, a tie to the even one. -/
def roundQuotient (numerator denominator : Nat) : Nat :=
  let quotient := numerator / denominator
  let twice := 2 * (numerator % denominator)
  if denominator < twice ∨ (twice = denominator ∧ quotient % 2 = 1) then quotient + 1 else quotient

/-- A positive quotient divided by `2 ^ exponent`, as a pair again. -/
def scale (numerator denominator : Nat) (exponent : Int) : Nat × Nat :=
  (numerator * Nat.pow 2 (-exponent).toNat, denominator * Nat.pow 2 exponent.toNat)

/-- The magnitude bits of the number nearest to a positive quotient. -/
def nearest (numerator denominator : Nat) : Nat :=
  let guess : Int := (numerator.log2 : Int) - denominator.log2 - 52
  let tooLow := let (n, d) := scale numerator denominator guess; n < Nat.pow 2 52 * d
  let exponent := max (if tooLow then guess - 1 else guess) (-1074)
  let (n, d) := scale numerator denominator exponent
  let significand := roundQuotient n d
  let magnitude := (exponent + 1074).toNat * Nat.pow 2 52 + significand
  min magnitude infinityBits

/-- The number nearest to `digits * 10 ^ exponent`; `count` is how many digits there are at most,
so that absurd exponents are settled without arithmetic. -/
def ofDecimal (negative : Bool) (digits : Nat) (exponent : Int) (count : Nat) : Binary64 :=
  if digits = 0 ∨ exponent + count < -400 then ofMagnitude negative 0
  else if 400 < exponent then infinity negative
  else
    ofMagnitude negative
      (nearest (digits * Nat.pow 10 exponent.toNat) (Nat.pow 10 (-exponent).toNat))

def isNegative (x : Binary64) : Bool :=
  Nat.pow 2 63 ≤ x.bits.toNat

def magnitude (x : Binary64) : Nat :=
  x.bits.toNat % Nat.pow 2 63

/-- Whether a number is neither infinite nor missing. -/
def isFinite (x : Binary64) : Bool :=
  x.magnitude < infinityBits

def isNan (x : Binary64) : Bool :=
  infinityBits < x.magnitude

/-- A finite magnitude as `significand * 2 ^ exponent`. -/
def decompose (magnitude : Nat) : Nat × Int :=
  let biased : Nat := magnitude / Nat.pow 2 52
  let fraction : Nat := magnitude % Nat.pow 2 52
  if biased = 0 then (fraction, -1074) else (Nat.pow 2 52 + fraction, (biased : Int) - 1075)

/-- An interval of numbers around `value`, all three over one denominator. -/
structure Interval where
  low : Nat
  value : Nat
  high : Nat
  denominator : Nat
  closed : Bool

/-- The numbers that round to a positive finite magnitude. -/
def rounding (magnitude : Nat) : Interval :=
  let (significand, exponent) := decompose magnitude
  let up := Nat.pow 2 (exponent - 2).toNat
  let below := if significand = Nat.pow 2 52 ∧ -1074 < exponent then 1 else 2
  { low := (4 * significand - below) * up
    value := 4 * significand * up
    high := (4 * significand + 2) * up
    denominator := Nat.pow 2 (2 - exponent).toNat
    closed := significand % 2 = 0 }

/-- The power of ten that is the place of a quotient's first digit. -/
def leadingPlace (numerator denominator : Nat) : Int :=
  if denominator ≤ numerator then ((Nat.toDigits 10 (numerator / denominator)).length : Int) - 1
  else
    match (List.range 400).find? fun places =>
        denominator ≤ numerator * Nat.pow 10 (places + 1) with
    | some places => -(places + 1 : Int)
    | none => -400

/-- The multiple of `10 ^ place` in an interval that lies nearest to its value, as the factor; of
two that are equally near it is the greater. -/
def onGrid? (interval : Interval) (place : Int) : Option Nat :=
  let unit := Nat.pow 10 place.toNat * interval.denominator
  let part := Nat.pow 10 (-place).toNat
  let inside (factor : Nat) : Bool :=
    if interval.closed then
      interval.low * part ≤ factor * unit && factor * unit ≤ interval.high * part
    else interval.low * part < factor * unit && factor * unit < interval.high * part
  let below := interval.value * part / unit
  let above := below + 1
  let aboveIsNearer := above * unit - interval.value * part ≤ interval.value * part - below * unit
  match inside below, inside above with
  | true, true => some (if aboveIsNearer then above else below)
  | true, false => some below
  | false, true => some above
  | false, false => none

/-- The fewest digits that read back as a positive finite magnitude, and the place of the last.  The
first grid is one place above the first digit, for numbers just below a power of ten. -/
def shortest (magnitude : Nat) : Nat × Int :=
  let interval := rounding magnitude
  let first := leadingPlace interval.value interval.denominator + 1
  let grids := (List.range 19).map fun (count : Nat) => first - count
  match grids.findSome? fun place => (onGrid? interval place).map (·, place) with
  | some found => found
  | none => (0, 0)

/-- Digits with a decimal point in front of the last `-place` of them, or zeros behind them. -/
def positional (digits : List Char) (place : Int) : List Char :=
  if 0 ≤ place then digits ++ List.replicate place.toNat '0' ++ ['.', '0']
  else
    let behind := (-place).toNat
    let filled := List.replicate (behind + 1 - digits.length) '0' ++ digits
    let (whole, fraction) := filled.splitAt (filled.length - behind)
    whole ++ '.' :: fraction

/-- A number in positional notation with at least one digit on each side of the point. -/
def text (x : Binary64) : String :=
  let sign := if x.isNegative then "-" else ""
  if x.isNan then "NaN"
  else if !x.isFinite then sign ++ "inf"
  else if x.magnitude = 0 then sign ++ "0.0"
  else
    let (digits, place) := shortest x.magnitude
    sign ++ String.ofList (positional (Nat.toDigits 10 digits) place)

end Binary64

end CompileSession
