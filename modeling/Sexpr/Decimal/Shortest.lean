import Sexpr.Decimal.Binary64

/-!
Shortest decimals: the fewest digits that read back as the same double, and of those the digits
nearest to its value.
-/

namespace Sexpr.Binary64

/-- Four times a finite double's value and the two ends of the interval of numbers that round to
it, over a common denominator. Below a power of two the doubles lie twice as dense, so there the
lower end is nearer. -/
structure Neighbourhood where
  lower : Nat
  value : Nat
  upper : Nat
  denominator : Nat
  /-- The ends belong to the interval. -/
  closed : Bool

def neighbourhood (mantissa : Nat) (exponent : Int) : Neighbourhood :=
  let (up, down) := power 2 exponent
  let gap := if mantissa = Nat.pow 2 (precision - 1) ∧ leastExponent < exponent then 1 else 2
  ⟨(4 * mantissa - gap) * up, 4 * mantissa * up, (4 * mantissa + 2) * up, 4 * down,
    mantissa % 2 = 0⟩

def Neighbourhood.holds (near : Neighbourhood) (scaled : Nat) : Bool :=
  if near.closed then near.lower ≤ scaled && scaled ≤ near.upper
  else near.lower < scaled && scaled < near.upper

/-- The multiple of a power of ten that rounds to the double and is nearest to it, if one of the two
around its value does. Of two as near the even one is taken. -/
def onGrid (near : Neighbourhood) (exponent : Int) : Option Nat :=
  let (up, down) := power 10 exponent
  let unit := near.denominator * up
  let target := near.value * down
  let scaled : Neighbourhood :=
    ⟨near.lower * down, target, near.upper * down, unit, near.closed⟩
  let below := target / unit
  let above := below + 1
  let nearest := divideToEven target unit
  if scaled.holds (nearest * unit) then some nearest
  else if scaled.holds (below * unit) then some below
  else if scaled.holds (above * unit) then some above
  else none

/-- The first grid with a hit, from the coarsest to be tried down to finer ones. -/
def search (near : Neighbourhood) : (tries : Nat) → (exponent : Int) → Nat × Int
  | 0, exponent => (near.value / near.denominator, exponent)
  | tries + 1, exponent =>
    match onGrid near exponent with
    | some digits => (digits, exponent)
    | none => search near tries (exponent - 1)

/-- The digits of a positive finite double and the power of ten of the last of them. A grid of which
one step exceeds the double cannot hold its shortest digits; 17 digits are always enough. -/
def shortest (mantissa : Nat) (exponent : Int) : Nat × Int :=
  let near := neighbourhood mantissa exponent
  let whole := near.value / near.denominator
  let coarsest : Int :=
    if whole > 0 then digitCount whole
    else -(digitCount (near.denominator / near.value) : Int) + 1
  search near 20 coarsest

end Sexpr.Binary64
