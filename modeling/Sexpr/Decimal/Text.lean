import Sexpr.Decimal.Shortest

/-!
The text of a double, and the double of a text. Numbers from a ten-thousandth up to below ten
to the sixteenth are written with their point in place, all others with a power of ten of at least
two digits; a whole number keeps a zero behind its point.
-/

namespace Sexpr.Binary64

def positional (digits : List Char) (places : Int) : List Char :=
  if places ≤ 0 then '0' :: '.' :: List.replicate places.natAbs '0' ++ digits
  else
    let missing := places.toNat - digits.length
    let whole := digits.take places.toNat ++ List.replicate missing '0'
    match digits.drop places.toNat with
    | [] => whole ++ ['.', '0']
    | fraction => whole ++ '.' :: fraction

def scientific (digits : List Char) (power : Int) : List Char :=
  let exponent := Nat.toDigits 10 power.natAbs
  let mantissa := match digits with
    | first :: second :: more => first :: '.' :: second :: more
    | short => short
  mantissa ++ ['e', if power < 0 then '-' else '+'] ++
    (if exponent.length < 2 then '0' :: exponent else exponent)

/-- The text of a positive number of these digits, the last of them at a power of ten. -/
def layOut (digits : Nat) (exponent : Int) : List Char :=
  let written := Nat.toDigits 10 digits
  let places := exponent + written.length
  if -4 < places ∧ places ≤ 16 then positional written places else scientific written (places - 1)

def render : Binary64 → String
  | .nan => "nan"
  | .infinite negative => if negative then "-inf" else "inf"
  | .finite negative mantissa exponent =>
    let magnitude :=
      if mantissa = 0 then ['0', '.', '0']
      else
        let (digits, power) := shortest mantissa exponent
        layOut digits power
    String.ofList (if negative then '-' :: magnitude else magnitude)

def digitsValue (digits : List Char) : Nat :=
  digits.foldl (fun value c => 10 * value + (c.toNat - '0'.toNat)) 0

def splitSign : List Char → Bool × List Char
  | '-' :: rest => (true, rest)
  | '+' :: rest => (false, rest)
  | rest => (false, rest)

/-- Reads digits, then a fraction and a power of ten if they are there, or one of the names of the
infinities and of not a number. -/
def ofText (text : String) : Option Binary64 :=
  let (negative, unsigned) := splitSign text.toList
  if unsigned = ['i', 'n', 'f'] then some (.infinite negative)
  else if unsigned = ['n', 'a', 'n'] then some .nan
  else
    let whole := unsigned.takeWhile Char.isDigit
    let (fraction, tail) := match unsigned.dropWhile Char.isDigit with
      | '.' :: rest => (rest.takeWhile Char.isDigit, rest.dropWhile Char.isDigit)
      | rest => ([], rest)
    let number (power : Int) : Option Binary64 :=
      if (whole ++ fraction).isEmpty then none
      else some (.ofDecimal negative (digitsValue (whole ++ fraction))
        (power - fraction.length))
    match tail with
    | [] => number 0
    | c :: rest =>
      let (below, power) := splitSign rest
      if (c == 'e' || c == 'E') && !power.isEmpty && power.all Char.isDigit then
        let value : Int := digitsValue power
        number (if below then -value else value)
      else none

end Sexpr.Binary64
