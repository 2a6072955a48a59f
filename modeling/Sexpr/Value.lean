import Sexpr.Breakdown
import Sexpr.Decimal.Text
import Sexpr.Moment

/-!
Values of a settings file: what may stand behind a key, and how a message shows it.
-/

namespace Sexpr

/-- A value. The entries of a table stand in the order in which they were written. -/
inductive Value where
  | text (value : String)
  | int (value : Int)
  | float (value : Binary64)
  | flag (value : Bool)
  | moment (value : Moment)
  | array (items : List Value)
  | table (entries : List (String × Value))

inductive ValueKind where
  | text | int | float | flag | date | time | dateTime | array | table
  deriving DecidableEq

def ValueKind.name : ValueKind → String
  | .text => "str"
  | .int => "int"
  | .float => "float"
  | .flag => "bool"
  | .date => "date"
  | .time => "time"
  | .dateTime => "datetime"
  | .array => "list"
  | .table => "dict"

namespace Value

def kind : Value → ValueKind
  | .text _ => .text
  | .int _ => .int
  | .float _ => .float
  | .flag _ => .flag
  | .moment (.day _) => .date
  | .moment (.clock _) => .time
  | .moment (.both _ _ _) => .dateTime
  | .array _ => .array
  | .table _ => .table

mutual
def render : Value → String
  | .text value => Text.quoted value
  | .int value => toString value
  | .float value => value.render
  | .flag true => "True"
  | .flag false => "False"
  | .moment value => value.render
  | .array [] => "[]"
  | .array (item :: items) => "[" ++ render item ++ renderItems items ++ "]"
  | .table [] => "\x7b\x7d"
  | .table ((key, value) :: entries) =>
    "\x7b" ++ Text.quoted key ++ ": " ++ render value ++ renderEntries entries ++ "\x7d"

def renderItems : List Value → String
  | [] => ""
  | item :: items => ", " ++ render item ++ renderItems items

def renderEntries : List (String × Value) → String
  | [] => ""
  | (key, value) :: entries =>
    ", " ++ Text.quoted key ++ ": " ++ render value ++ renderEntries entries
end

mutual
/-- What showing a value breaks down at, if at anything, when so many levels are left. -/
def obstacleWithin (levels : Nat) : Value → Option Breakdown
  | .int value => Breakdown.ofInteger? value
  | .array items => match levels with
    | 0 => some .deepNesting
    | levels + 1 => itemsObstacle levels items
  | .table entries => match levels with
    | 0 => some .deepNesting
    | levels + 1 => entriesObstacle levels entries
  | .text _ | .float _ | .flag _ | .moment _ => none

def itemsObstacle (levels : Nat) : List Value → Option Breakdown
  | [] => none
  | item :: items => obstacleWithin levels item <|> itemsObstacle levels items

def entriesObstacle (levels : Nat) : List (String × Value) → Option Breakdown
  | [] => none
  | (_, value) :: entries => obstacleWithin levels value <|> entriesObstacle levels entries
end

def obstacle? (limits : Limits) (value : Value) : Option Breakdown :=
  value.obstacleWithin limits.shownLevels

/-- The value as a settings file would show it. A text stands between double quotes as it is. -/
def display : Option Value → String
  | none => "# not set"
  | some (.text value) => "\"" ++ value ++ "\""
  | some (.flag true) => "true"
  | some (.flag false) => "false"
  | some value => value.render

end Value

end Sexpr
