/-!
Places in lists and texts: by an index, or by line and column as a reader counts them. A negative
index counts from the end. Not every number is an index: one has to fit into 64 bits with its sign.
-/

namespace Sexpr

/-- Why an index leads to nothing: nothing stands there, or the number is no index. -/
inductive IndexFault where
  | outOfRange
  | noIndex
  deriving DecidableEq

namespace Index

def isIndex (number : Int) : Bool :=
  -9223372036854775808 ≤ number && number ≤ 9223372036854775807

/-- The place that an index names in something of a length, counted from the front. -/
def place (length : Nat) (index : Int) : Except IndexFault Nat :=
  let fromFront := if index < 0 then index + length else index
  if !isIndex index then .error .noIndex
  else if 0 ≤ fromFront ∧ fromFront < length then .ok fromFront.toNat
  else .error .outOfRange

end Index

namespace Text

/-- A line and a column, both counted from 1. -/
structure Position where
  line : Nat
  column : Nat
  deriving DecidableEq

/-- The place right behind a stretch of text. Only a line feed starts a line, so the column counts
the characters behind the last one. -/
def Position.after (before : List Char) : Position where
  line := before.count '\n' + 1
  column := (before.reverse.takeWhile (· ≠ '\n')).length + 1

end Text

end Sexpr
