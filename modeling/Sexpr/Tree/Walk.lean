import Sexpr.Tree.Basic

/-!
Walks through trees. A walk keeps the list of trees it has still to visit, so a chain of nodes as
long as the text needs no more room than a short one.
-/

namespace Sexpr.Tree

mutual
def size : Tree → Nat
  | .leaf _ _ => 1
  | .branch _ children => 1 + sizeAll children

def sizeAll : List Tree → Nat
  | [] => 0
  | tree :: trees => size tree + sizeAll trees
end

@[simp] theorem sizeAll_append (front back : List Tree) :
    sizeAll (front ++ back) = sizeAll front + sizeAll back := by
  induction front with
  | nil => simp [sizeAll]
  | cons tree trees ih => simp [sizeAll, ih, Nat.add_assoc]

theorem sizeAll_children_lt (tree : Tree) : sizeAll tree.children < size tree := by
  cases tree <;> simp [children, size, sizeAll]

/-- Every node of the pending trees, each before its children and all in the order of the text. -/
def visit : (pending : List Tree) → List Tree
  | [] => []
  | tree :: pending => tree :: visit (tree.children ++ pending)
termination_by pending => sizeAll pending
decreasing_by
  have := sizeAll_children_lt tree
  simp only [sizeAll_append, sizeAll]
  omega

def nodes (tree : Tree) : List Tree :=
  visit [tree]

def leaves (tree : Tree) : List Tree :=
  tree.nodes.filter isLeaf

/-- The children of the atom nodes. Of a derivation these are its words without the parentheses. -/
def atoms (tree : Tree) : List Tree :=
  tree.nodes.flatMap fun node => if node.symbol = .grammar .atom then node.children else []

end Sexpr.Tree
