import Sexpr.Text.Character
import Sexpr.Toml.Fault
import Sexpr.Value

/-!
The numbers of a TOML document. Single underscores may stand between digits; a decimal number other
than zero starts with no zero; a fraction or a power of ten makes a float. Only the digits of
decimal integers are limited in number.
-/

namespace Sexpr.Toml

/-- Digits that follow a digit, each alone or behind one underscore, without the underscores. -/
def moreDigits (isDigit : Char → Bool) : List Char → List Char × List Char
  | '_' :: c :: rest =>
    if isDigit c then
      let (digits, rest) := moreDigits isDigit rest
      (c :: digits, rest)
    else ([], '_' :: c :: rest)
  | c :: rest =>
    if isDigit c then
      let (digits, rest) := moreDigits isDigit rest
      (c :: digits, rest)
    else ([], c :: rest)
  | [] => ([], [])

def digitRun (isDigit : Char → Bool) : List Char → Option (List Char × List Char)
  | c :: rest =>
    if isDigit c then
      let (digits, rest) := moreDigits isDigit rest
      some (c :: digits, rest)
    else none
  | [] => none

def valueIn (base : Nat) (digits : List Char) : Nat :=
  digits.foldl (fun value c => base * value + (Text.hexValue? c).getD 0) 0

def based? : List Char → Option (Value × List Char)
  | '0' :: mark :: rest =>
    let digitsOf (base : Nat) : Option (Value × List Char) :=
      (digitRun (fun c => (Text.hexValue? c).any (· < base)) rest).map fun (digits, rest) =>
        (.int (valueIn base digits), rest)
    if mark = 'x' then digitsOf 16
    else if mark = 'b' then digitsOf 2
    else if mark = 'o' then digitsOf 8
    else none
  | _ => none

def whole? : List Char → Option (List Char × List Char)
  | '0' :: rest => some (['0'], rest)
  | text => digitRun Char.isDigit text

/-- The digits behind a point. Without them the point is not read either. -/
def fraction : List Char → List Char × List Char
  | '.' :: rest =>
    match digitRun Char.isDigit rest with
    | some (digits, rest) => (digits, rest)
    | none => ([], '.' :: rest)
  | text => ([], text)

def power? : List Char → Option (Int × List Char)
  | mark :: rest =>
    if mark = 'e' ∨ mark = 'E' then
      let (negative, unsigned) := Binary64.splitSign rest
      (digitRun Char.isDigit unsigned).map fun (digits, rest) =>
        let value : Int := valueIn 10 digits
        (if negative then -value else value, rest)
    else none
  | [] => none

/-- A decimal number with or without a sign, unless it is an integer that is too long. -/
def decimal? (text : List Char) : Option (Except Fault (Value × List Char)) := do
  let (negative, unsigned) := Binary64.splitSign text
  let (digits, rest) ← whole? unsigned
  let (places, rest) := fraction rest
  let float (power : Int) : Value :=
    .float (.ofDecimal negative (valueIn 10 (digits ++ places)) (power - places.length))
  match power? rest with
  | some (power, rest) => return .ok (float power, rest)
  | none =>
    if !places.isEmpty then return .ok (float 0, rest)
    else if Breakdown.digitLimit < digits.length then
      return refuse (.longInteger digits.length) rest
    else
      let value : Int := valueIn 10 digits
      return .ok (.int (if negative then -value else value), rest)

def named? (text : List Char) : Option (Value × List Char) :=
  let (negative, unsigned) := Binary64.splitSign text
  match unsigned with
  | 'i' :: 'n' :: 'f' :: rest => some (.float (.infinite negative), rest)
  | 'n' :: 'a' :: 'n' :: rest => some (.float .nan, rest)
  | _ => none

def number? (text : List Char) : Option (Except Fault (Value × List Char)) :=
  (based? text).map .ok <|> decimal? text <|> (named? text).map .ok

end Sexpr.Toml
