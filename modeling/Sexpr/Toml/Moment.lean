import Sexpr.Toml.Fault
import Sexpr.Value

/-!
The moments of a TOML document: days, times of day, and both with a letter T or a space between
them.
-/

namespace Sexpr.Toml

def ranged? (count least greatest : Nat) (text : List Char) : Option (Nat × List Char) :=
  let digits := text.take count
  let value := digits.foldl (fun value c => 10 * value + (c.toNat - '0'.toNat)) 0
  if digits.length = count ∧ digits.all Char.isDigit ∧ least ≤ value ∧ value ≤ greatest then
    some (value, text.drop count)
  else none

def rangedBehind? (sign : Char) (count least greatest : Nat) :
    List Char → Option (Nat × List Char)
  | c :: rest => if c = sign then ranged? count least greatest rest else none
  | [] => none

/-- A day, which the calendar need not have. -/
def day? (text : List Char) : Option (Day × List Char) := do
  let (year, rest) ← ranged? 4 0 9999 text
  let (month, rest) ← rangedBehind? '-' 2 1 12 rest
  let (day, rest) ← rangedBehind? '-' 2 1 31 rest
  return (⟨year, month, day⟩, rest)

/-- Millionths of a second behind a point. Further digits are dropped. -/
def micros : List Char → Nat × List Char
  | '.' :: rest =>
    let digits := rest.takeWhile Char.isDigit
    if digits.isEmpty then (0, '.' :: rest)
    else
      let kept := (digits ++ List.replicate 6 '0').take 6
      (kept.foldl (fun value c => 10 * value + (c.toNat - '0'.toNat)) 0,
        rest.dropWhile Char.isDigit)
  | text => (0, text)

def clock? (text : List Char) : Option (Clock × List Char) := do
  let (hour, rest) ← ranged? 2 0 23 text
  let (minute, rest) ← rangedBehind? ':' 2 0 59 rest
  let (second, rest) ← rangedBehind? ':' 2 0 59 rest
  let (micro, rest) := micros rest
  return (⟨hour, minute, second, micro⟩, rest)

def distance? (text : List Char) : Option (Int × List Char) := do
  let (hour, rest) ← ranged? 2 0 23 text
  let (minute, rest) ← rangedBehind? ':' 2 0 59 rest
  return ((60 * hour + minute : Nat), rest)

/-- An offset, if one is written: the letter Z for none at all, or a sign with hours and minutes. -/
def offset (text : List Char) : Option Int × List Char :=
  match text with
  | 'Z' :: rest | 'z' :: rest => (some 0, rest)
  | '+' :: rest => ((distance? rest).map fun (minutes, rest) => (some minutes, rest)).getD
      (none, text)
  | '-' :: rest => ((distance? rest).map fun (minutes, rest) => (some (-minutes), rest)).getD
      (none, text)
  | _ => (none, text)

def dated? (text : List Char) : Option (Except Fault (Moment × List Char)) := do
  let (day, rest) ← day? text
  let timed : Option (Clock × List Char) := match rest with
    | 'T' :: behind | 't' :: behind | ' ' :: behind => clock? behind
    | _ => none
  if !day.isValid then return refuse .noDay text
  else match timed with
    | some (clock, rest) =>
      let (offset, rest) := offset rest
      return .ok (.both day clock offset, rest)
    | none => return .ok (.day day, rest)

def moment? (text : List Char) : Option (Except Fault (Moment × List Char)) :=
  dated? text <|> (clock? text).map fun (clock, rest) => .ok (.clock clock, rest)

end Sexpr.Toml
