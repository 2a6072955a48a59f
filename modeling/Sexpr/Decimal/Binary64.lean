/-!
Double precision numbers as mantissa and exponent, and the nearest one to a decimal number. All
arithmetic is on natural numbers and exact.
-/

namespace Sexpr

/-- A double: `mantissa` times a power of two with a sign, an infinity, or not a number. Finite
doubles come with the exponent that `Binary64.ofDecimal` gives them, so a zero keeps its sign. -/
inductive Binary64 where
  | finite (negative : Bool) (mantissa : Nat) (exponent : Int)
  | infinite (negative : Bool)
  | nan
  deriving DecidableEq

namespace Binary64

/-- The bits of a mantissa, the exponent of the least positive double, and the greatest exponent. -/
def precision : Nat := 53
def leastExponent : Int := -1074
def greatestExponent : Int := 971

/-- The quotient rounded to the nearest number, and to the even one of two as near. -/
def divideToEven (numerator denominator : Nat) : Nat :=
  let quotient := numerator / denominator
  let double := 2 * (numerator % denominator)
  if double < denominator then quotient
  else if double = denominator ∧ quotient % 2 = 0 then quotient
  else quotient + 1

/-- `base` to an integer power, as numerator and denominator. -/
def power (base : Nat) (exponent : Int) : Nat × Nat :=
  let raised := base.pow exponent.natAbs
  if exponent < 0 then (1, raised) else (raised, 1)

/-- The exponent of the greatest power of two that is at most the positive ratio. -/
def floorLog2 (numerator denominator : Nat) : Int :=
  let estimate : Int := (numerator.log2 : Int) - denominator.log2
  let (up, down) := power 2 estimate
  if numerator * down < denominator * up then estimate - 1 else estimate

def ofRatio (negative : Bool) (numerator denominator : Nat) : Binary64 :=
  let exponent := max (floorLog2 numerator denominator - (precision - 1)) leastExponent
  let (up, down) := power 2 exponent
  let rounded := divideToEven (numerator * down) (denominator * up)
  let (mantissa, exponent) :=
    if rounded = Nat.pow 2 precision then (rounded / 2, exponent + 1) else (rounded, exponent)
  if exponent > greatestExponent then .infinite negative else .finite negative mantissa exponent

def digitCount (n : Nat) : Nat :=
  (Nat.toDigits 10 n).length

/-- The double nearest to `digits` times a power of ten. Far outside the range of the doubles the
answer is known without the power. -/
def ofDecimal (negative : Bool) (digits : Nat) (exponent : Int) : Binary64 :=
  let magnitude := exponent + digitCount digits
  if digits = 0 ∨ magnitude < -330 then .finite negative 0 leastExponent
  else if magnitude > 310 then .infinite negative
  else
    let (up, down) := power 10 exponent
    ofRatio negative (digits * up) down

end Binary64

end Sexpr
