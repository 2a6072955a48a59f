import Sexpr.Decimal.Binary64

/-!
Numerals: how the numbers of records are written. Whole numbers have digits of a base; the other
styles write a decimal fraction, with its point in place, behind the first digit with a power of
ten, or in the shorter of both ways.
-/

namespace Sexpr

/-- A style of numerals. Letters among the digits, and the one before a power of ten, can be
large. -/
inductive Numeral where
  | decimal
  | octal
  | hexadecimal (large : Bool)
  | fixed
  | exponent (large : Bool)
  | general (large : Bool)
  deriving DecidableEq

namespace Numeral

def zeros (count : Nat) : String :=
  String.ofList (List.replicate count '0')

def whole (base count value : Nat) : String :=
  let digits := String.ofList (Nat.toDigits base value)
  zeros (count - digits.length) ++ digits

/-- The power of ten that the first digit of a positive fraction stands for. -/
def magnitude (numerator denominator : Nat) : Int :=
  if denominator ≤ numerator then Binary64.digitCount (numerator / denominator) - 1
  else -(Binary64.digitCount ((denominator - 1) / numerator) : Int)

/-- The leading digits of a fraction, rounded to the nearest and to the even one of two as near, and
the power of ten that the first of them stands for. -/
def leading (count numerator denominator : Nat) : List Char × Int :=
  if numerator = 0 then (List.replicate count '0', 0)
  else
    let power := magnitude numerator denominator
    let (up, down) := Binary64.power 10 (power - count + 1)
    let digits := Nat.toDigits 10 (Binary64.divideToEven (numerator * down) (denominator * up))
    -- All nines are rounded up to a one with a zero more than there is room for.
    (digits.take count, if count < digits.length then power + 1 else power)

/-- Digits behind a point. Without any the point is left out, unless all is written in full. -/
def fraction (full : Bool) (digits : List Char) : String :=
  if digits.isEmpty && !full then "" else "." ++ String.ofList digits

def withPlaces (full : Bool) (places numerator denominator : Nat) : String :=
  let scaled := Binary64.divideToEven (numerator * Nat.pow 10 places) denominator
  let digits := (whole 10 (places + 1) scaled).toList
  String.ofList (digits.take (digits.length - places)) ++
    fraction full (digits.drop (digits.length - places))

/-- Digits with a point behind the first, and a power of ten of at least two digits. -/
def scientific (full : Bool) (digits : List Char) (power : Int) : String :=
  String.ofList (digits.take 1) ++ fraction full (digits.drop 1) ++
    (if power < 0 then "e-" else "e+") ++ whole 10 2 power.natAbs

def withoutZeros (digits : List Char) : List Char :=
  (digits.reverse.dropWhile (· == '0')).reverse

def digitBound : Nat := 1100

/-- A fraction with so many digits in all, its point in place if no more than four zeros stand
before them and none behind, else with a power of ten. Zeros at the end are written only in full. -/
def short (full : Bool) (count numerator denominator : Nat) : String :=
  let (digits, power) :=
    leading (if full then count else min count digitBound) numerator denominator
  let trim (digits : List Char) := if full then digits else withoutZeros digits
  if power < -4 ∨ (count : Int) ≤ power then
    scientific full (digits.take 1 ++ trim (digits.drop 1)) power
  else if power < 0 then
    "0" ++ fraction full (trim (List.replicate (power.natAbs - 1) '0' ++ digits))
  else
    let places := power.toNat + 1
    String.ofList (digits.take places) ++ fraction full (trim (digits.drop places))

def baseSign : Numeral → String
  | .octal => "0o"
  | .hexadecimal large => if large then "0X" else "0x"
  | _ => ""

/-- Places behind the point, or digits in all, where nothing else is said. -/
def defaultPrecision : Nat := 6

def inCase (large : Bool) (text : String) : String :=
  if large then text.toUpper else text

/-- A whole number without sign and base, in a style for whole numbers. The precision is the least
count of digits. -/
def ofWhole? (style : Numeral) (precision : Option Nat) (value : Nat) : Option String :=
  let count := precision.getD 0
  match style with
  | .decimal => some (whole 10 count value)
  | .octal => some (whole 8 count value)
  | .hexadecimal large => some (inCase large (whole 16 count value))
  | .fixed | .exponent _ | .general _ => none

/-- A fraction without its sign, in a style for fractions. The precision is the count of places
behind the point, or the count of digits in all. -/
def ofRatio? (style : Numeral) (full : Bool) (precision : Option Nat) :
    (ratio : Nat × Nat) → Option String
  | (numerator, denominator) =>
    let places := precision.getD defaultPrecision
    match style with
    | .fixed => some (withPlaces full places numerator denominator)
    | .exponent large =>
      let (digits, power) := leading (places + 1) numerator denominator
      some (inCase large (scientific full digits power))
    | .general large => some (inCase large (short full (max 1 places) numerator denominator))
    | .decimal | .octal | .hexadecimal _ => none

end Numeral

end Sexpr
