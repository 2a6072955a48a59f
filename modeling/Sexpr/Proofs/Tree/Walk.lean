import Sexpr.Proofs.Token.Lexing
import Sexpr.Tree.Walk

/-!
What walks see of a tree. The pending list of a walk hides the shape of the tree that it goes
through; here each walk is turned into an equation on a node and its children. `contents` is the
part of a tree that a token list can be compared with.
-/

namespace Sexpr

namespace Tree

theorem visit_cons (tree : Tree) (pending : List Tree) :
    visit (tree :: pending) = tree :: visit (tree.children ++ pending) := by
  rw [visit]

/-- A walk finishes the trees that are pending first before it turns to those behind them. -/
theorem visit_append (front back : List Tree) :
    visit (front ++ back) = visit front ++ visit back := by
  match front with
  | [] => simp [visit]
  | tree :: pending =>
      rw [List.cons_append, visit_cons, visit_cons, ← List.append_assoc,
        visit_append (tree.children ++ pending) back, List.cons_append]
termination_by sizeAll front
decreasing_by
  have := sizeAll_children_lt tree
  simp only [sizeAll_append, sizeAll]
  omega

theorem visit_eq_flatMap (trees : List Tree) : visit trees = trees.flatMap nodes := by
  induction trees with
  | nil => simp [visit]
  | cons tree trees ih =>
      rw [← List.singleton_append, visit_append, ih, List.flatMap_append]
      simp [nodes]

@[simp] theorem nodes_leaf (cls : TokenClass) (text : String) :
    nodes (.leaf cls text) = [.leaf cls text] := by
  simp [nodes, visit_cons, visit, children]

@[simp] theorem nodes_branch (rule : Rule) (trees : List Tree) :
    nodes (.branch rule trees) = .branch rule trees :: trees.flatMap nodes := by
  rw [nodes, visit_cons, List.append_nil, visit_eq_flatMap, children]

@[simp] theorem leaves_leaf (cls : TokenClass) (text : String) :
    leaves (.leaf cls text) = [.leaf cls text] := by
  simp [leaves, isLeaf]

@[simp] theorem leaves_branch (rule : Rule) (trees : List Tree) :
    leaves (.branch rule trees) = trees.flatMap leaves := by
  rw [leaves, nodes_branch, List.filter_cons_of_neg (by simp [isLeaf]), List.filter_flatMap]
  rfl

@[simp] theorem atoms_leaf (cls : TokenClass) (text : String) :
    atoms (.leaf cls text) = [] := by
  simp [atoms, symbol]

/-- The children of an atom node are atoms, whatever they are, and so are those of the atom nodes
below. -/
@[simp] theorem atoms_branch (rule : Rule) (trees : List Tree) :
    atoms (.branch rule trees) = (if rule = .atom then trees else []) ++ trees.flatMap atoms := by
  rw [atoms, nodes_branch, List.flatMap_cons, List.flatMap_assoc]
  simp only [symbol, children, Symbol.grammar.injEq]
  rfl

def contents (tree : Tree) : List (Symbol × String) :=
  tree.leaves.map fun leaf => (leaf.symbol, leaf.text)

@[simp] theorem contents_leaf (cls : TokenClass) (text : String) :
    contents (.leaf cls text) = [(.lexical cls, text)] := by
  simp [contents, symbol, Tree.text]

@[simp] theorem contents_branch (rule : Rule) (trees : List Tree) :
    contents (.branch rule trees) = trees.flatMap contents := by
  rw [contents, leaves_branch, List.map_flatMap]
  rfl

theorem contents_single (rule : Rule) (tree : Tree) :
    contents (.branch rule [tree]) = tree.contents := by
  rw [contents_branch, List.flatMap_singleton]

/-- The leaf of a token says what the token says. -/
theorem contents_of_ofToken {token : Token} {leaf : Tree} (h : ofToken token = .ok leaf) :
    leaf.contents = [token.content] := by
  obtain ⟨kind, text, offset⟩ := token
  cases kind with
  | lexical cls =>
      cases h
      exact contents_leaf cls text
  | grammar rule => cases h

end Tree

end Sexpr
