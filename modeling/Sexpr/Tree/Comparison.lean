import Sexpr.Breakdown
import Sexpr.Tree.Basic

/-!
Comparison of trees: level by level, and from left to right up to the first difference. It cannot go
down any number of levels; within its room it says the same as `same`.
-/

namespace Sexpr.Tree

mutual
/-- Whether two trees are the same, as far as so many levels of branches show it. -/
def sameWithin (levels : Nat) : Tree → Tree → Except Breakdown Bool
  | .leaf cls text, .leaf cls' text' => .ok (cls == cls' && text == text')
  | .branch rule children, .branch rule' children' =>
    match levels with
    | 0 => .error .deepNesting
    | levels + 1 =>
      if rule = rule' then sameAllWithin levels children children' else .ok false
  | _, _ => .ok false

def sameAllWithin (levels : Nat) : List Tree → List Tree → Except Breakdown Bool
  | [], [] => .ok true
  | tree :: trees, tree' :: trees' =>
    match sameWithin levels tree tree' with
    | .ok true => sameAllWithin levels trees trees'
    | result => result
  | _, _ => .ok false
end

/-- Whether two trees are the same, unless they are the same too far down. -/
def compare (limits : Limits) (tree other : Tree) : Except Breakdown Bool :=
  sameWithin limits.comparedLevels tree other

end Sexpr.Tree
