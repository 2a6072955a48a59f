import Sexpr.Breakdown
import Sexpr.Tree.Draft

/-!
The indented text of a tree's document. It is written line by line from a list of what is still to
write, so that deep trees need no deep calls.
-/

namespace Sexpr.Tree

/-- What is still to write: a finished line, or a node at a depth with what follows its closing
brace. -/
inductive Pending where
  | line (text : String)
  | node (tree : Tree) (depth : Nat) (tail : String)

/-- The nodes of a list of siblings: all but the last are followed by a comma. -/
def siblings (depth : Nat) : List Tree → List Pending
  | [] => []
  | [last] => [.node last depth ""]
  | tree :: trees => .node tree depth "," :: siblings depth trees

/-- Bounds the lines that are still to come. -/
def Pending.weight : Pending → Nat
  | .line _ => 1
  | .node tree _ _ => 3 * size tree

def pendingWeight : List Pending → Nat
  | [] => 0
  | item :: pending => item.weight + pendingWeight pending

theorem pendingWeight_append (front back : List Pending) :
    pendingWeight (front ++ back) = pendingWeight front + pendingWeight back := by
  induction front with
  | nil => simp [pendingWeight]
  | cons item pending ih => simp [pendingWeight, ih, Nat.add_assoc]

theorem pendingWeight_siblings (depth : Nat) (trees : List Tree) :
    pendingWeight (siblings depth trees) = 3 * sizeAll trees := by
  induction trees with
  | nil => rfl
  | cons tree trees ih =>
    cases trees with
    | nil => simp [siblings, pendingWeight, Pending.weight, sizeAll]
    | cons second rest =>
      rw [siblings]
      · simp only [pendingWeight, Pending.weight, sizeAll] at ih ⊢
        omega
      · simp

def documentLines (indent : Nat) : (pending : List Pending) → List String
  | [] => []
  | .line text :: pending => text :: documentLines indent pending
  | .node tree depth tail :: pending =>
    let outer := Text.spaces (indent * depth)
    let inner := Text.spaces (indent * (depth + 1))
    let kind := inner ++ "\"kind\": " ++ Json.quote tree.symbol.name ++ ","
    match tree with
    | .leaf _ text =>
      (outer ++ "\x7b") :: kind :: (inner ++ "\"text\": " ++ Json.quote text) ::
        (outer ++ "\x7d" ++ tail) :: documentLines indent pending
    | .branch _ [] =>
      (outer ++ "\x7b") :: kind :: (inner ++ "\"children\": []") ::
        (outer ++ "\x7d" ++ tail) :: documentLines indent pending
    | .branch _ (first :: rest) =>
      (outer ++ "\x7b") :: kind :: (inner ++ "\"children\": [") ::
        documentLines indent (siblings (depth + 2) (first :: rest) ++
          .line (inner ++ "]") :: .line (outer ++ "\x7d" ++ tail) :: pending)
termination_by pending => pendingWeight pending
decreasing_by
  · simp [pendingWeight, Pending.weight]
  · simp [pendingWeight, Pending.weight, size]
  · simp [pendingWeight, Pending.weight, size, sizeAll]
  · have := pendingWeight_siblings (depth + 2) (first :: rest)
    rw [pendingWeight_append, this]
    simp only [pendingWeight, Pending.weight, size]
    omega

mutual
/-- How many nodes lie one in the other in a tree. -/
def levels : Tree → Nat
  | .leaf _ _ => 1
  | .branch _ children => 1 + levelsAll children

def levelsAll : List Tree → Nat
  | [] => 0
  | tree :: trees => max (levels tree) (levelsAll trees)
end

def documentText (tree : Tree) (indent : Nat) : String :=
  "\n".intercalate (documentLines indent [.node tree 0 ""])

/-- What writing a document breaks down at, if at anything. The lines inside a node are indented by
one step for the node and by two for each that it lies in, so the steps are tried one by one from
the outermost node on. -/
def documentObstacle? (limits : Limits) (tree : Tree) (indent : Int) : Option Breakdown :=
  (List.range (2 * tree.levels - 1)).findSome? fun step =>
    Breakdown.ofSpaces? limits (indent * (step + 1 : Nat))

/-- The indented text of a tree's document, if it can be written. A leaf alone is no document, and
steps to the left are none. -/
def writeDocument (limits : Limits) (tree : Tree) (indent : Int) : Except Breakdown String :=
  if tree.isLeaf then .error .leafAlone
  else match tree.documentObstacle? limits indent with
    | some cause => .error cause
    | none => .ok (tree.documentText indent.toNat)

end Sexpr.Tree
