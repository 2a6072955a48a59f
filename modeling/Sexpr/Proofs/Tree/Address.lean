import Mathlib.Algebra.BigOperators.Group.List.Basic
import Mathlib.Algebra.GroupWithZero.Nat
import Sexpr.Proofs.Tree.Walk

/-!
Where the nodes of a tree are. A node is found by its address, the indices of the children on the
way down to it; equal subtrees at two addresses are two nodes. `occurrences` collects the nodes with
their addresses by recursion on the tree. A walk goes through just these, in the order of the
addresses, so it misses no node and comes to none twice.
-/

namespace Sexpr.Tree

/-- The indices of the children on the way from the root of a tree to a node. -/
abbrev Address : Type := List Nat

def nodeAt? (tree : Tree) : Address → Option Tree
  | [] => some tree
  | index :: address => tree.children[index]?.bind (·.nodeAt? address)

mutual
/-- The nodes of a tree with their addresses, each before those of its children. -/
def occurrences : Tree → List (Address × Tree)
  | .leaf cls text => [([], .leaf cls text)]
  | .branch rule children => ([], .branch rule children) :: occurrencesFrom 0 children

def occurrencesFrom (index : Nat) : List Tree → List (Address × Tree)
  | [] => []
  | tree :: trees =>
    (occurrences tree).map (fun (address, node) => (index :: address, node)) ++
      occurrencesFrom (index + 1) trees
end

theorem map_snd_below (index : Nat) (found : List (Address × Tree)) :
    (found.map fun (address, node) => (index :: address, node)).map Prod.snd =
      found.map Prod.snd := by
  rw [List.map_map]
  rfl

mutual
theorem map_snd_occurrences (tree : Tree) : tree.occurrences.map Prod.snd = tree.nodes := by
  cases tree with
  | leaf cls text => rw [occurrences, nodes_leaf, List.map_singleton]
  | branch rule children =>
      rw [occurrences, nodes_branch, List.map_cons, map_snd_occurrencesFrom 0 children]

theorem map_snd_occurrencesFrom (index : Nat) (trees : List Tree) :
    (occurrencesFrom index trees).map Prod.snd = trees.flatMap nodes := by
  cases trees with
  | nil => rfl
  | cons tree trees =>
      rw [occurrencesFrom, List.map_append, map_snd_below, map_snd_occurrences tree,
        map_snd_occurrencesFrom (index + 1) trees, List.flatMap_cons]
end

theorem mem_below_iff {index : Nat} {found : List (Address × Tree)} {address : Address}
    {node : Tree} :
    (address, node) ∈ found.map (fun (address, node) => (index :: address, node)) ↔
      ∃ rest, address = index :: rest ∧ (rest, node) ∈ found := by
  rw [List.mem_map]
  constructor
  · rintro ⟨⟨rest, other⟩, hmem, heq⟩
    cases heq
    exact ⟨rest, rfl, hmem⟩
  · rintro ⟨rest, rfl, hmem⟩
    exact ⟨(rest, node), hmem, rfl⟩

mutual
theorem mem_occurrences_iff {address : Address} {node : Tree} (tree : Tree) :
    (address, node) ∈ tree.occurrences ↔ tree.nodeAt? address = some node := by
  cases tree with
  | leaf cls text =>
      cases address with
      | nil => simp [occurrences, nodeAt?, eq_comm]
      | cons index rest => simp [occurrences, nodeAt?, children]
  | branch rule children =>
      rw [occurrences, List.mem_cons, mem_occurrencesFrom_iff 0 children]
      cases address with
      | nil => simp [nodeAt?, eq_comm]
      | cons index rest => simp [nodeAt?, Tree.children]

/-- The first index of an address below some children tells which of them it leads to. -/
theorem mem_occurrencesFrom_iff {address : Address} {node : Tree} (index : Nat)
    (trees : List Tree) :
    (address, node) ∈ occurrencesFrom index trees ↔
      ∃ step rest, address = (index + step) :: rest ∧
        trees[step]?.bind (·.nodeAt? rest) = some node := by
  cases trees with
  | nil => simp [occurrencesFrom]
  | cons tree trees =>
      rw [occurrencesFrom, List.mem_append, mem_below_iff,
        mem_occurrencesFrom_iff (index + 1) trees]
      simp only [mem_occurrences_iff tree]
      constructor
      · rintro (⟨rest, rfl, hfound⟩ | ⟨step, rest, rfl, hfound⟩)
        · exact ⟨0, rest, rfl, hfound⟩
        · exact ⟨step + 1, rest, by rw [Nat.add_assoc, Nat.add_comm 1], hfound⟩
      · rintro ⟨step, rest, rfl, hfound⟩
        cases step with
        | zero => exact .inl ⟨rest, rfl, hfound⟩
        | succ step =>
            exact .inr ⟨step, rest, by rw [Nat.add_assoc, Nat.add_comm 1], hfound⟩
end

/-- Addresses as a reader comes to them: a node before all below it, and all below a child before
the next child. -/
abbrev Address.Before : Address → Address → Prop :=
  List.Lex (· < ·)

mutual
theorem occurrences_ascend (tree : Tree) :
    (tree.occurrences.map Prod.fst).Pairwise Address.Before := by
  cases tree with
  | leaf cls text => simp [occurrences]
  | branch rule children =>
      rw [occurrences, List.map_cons, List.pairwise_cons]
      refine ⟨?_, occurrencesFrom_ascend 0 children⟩
      intro address hmem
      obtain ⟨⟨address, node⟩, hfound, rfl⟩ := List.mem_map.mp hmem
      obtain ⟨step, rest, rfl, -⟩ := (mem_occurrencesFrom_iff 0 children).mp hfound
      exact .nil

theorem occurrencesFrom_ascend (index : Nat) (trees : List Tree) :
    ((occurrencesFrom index trees).map Prod.fst).Pairwise Address.Before := by
  cases trees with
  | nil => exact .nil
  | cons tree trees =>
      have hfirst := occurrences_ascend tree
      have hrest := occurrencesFrom_ascend (index + 1) trees
      rw [List.pairwise_map] at hfirst hrest
      rw [List.pairwise_map, occurrencesFrom, List.pairwise_append, List.pairwise_map]
      refine ⟨hfirst.imp .cons, hrest, ?_⟩
      rintro ⟨here, node⟩ hhere ⟨there, other⟩ hthere
      obtain ⟨rest, rfl, -⟩ := mem_below_iff.mp hhere
      obtain ⟨step, rest, rfl, -⟩ := (mem_occurrencesFrom_iff (index + 1) trees).mp hthere
      exact .rel (by omega)
end

/-- The atoms are found by looking for atom nodes first. -/
theorem atoms_eq (tree : Tree) :
    tree.atoms = (tree.nodes.filter (·.symbol = .grammar .atom)).flatMap children := by
  rw [atoms]
  induction tree.nodes with
  | nil => rfl
  | cons node nodes ih =>
      rw [List.flatMap_cons, ih, List.filter_cons]
      by_cases hatom : node.symbol = .grammar .atom <;> simp [hatom]

/-- The walks through a tree, which keep a list of what is pending, do what recursion on the tree
does. The nodes are the tree itself and then those of its children, one for each address and in the
order of the addresses; the leaves are those nodes that are leaves, and the atoms the children of
those that are atom nodes, in the same order. -/
theorem walks_recursive (tree : Tree) :
    tree.nodes = tree :: tree.children.flatMap nodes ∧
    (tree.occurrences.map Prod.snd = tree.nodes ∧
      (tree.occurrences.map Prod.fst).Pairwise Address.Before ∧
      ∀ address node, (address, node) ∈ tree.occurrences ↔ tree.nodeAt? address = some node) ∧
    tree.leaves = (tree.occurrences.filter (·.2.isLeaf)).map Prod.snd ∧
    tree.atoms = (tree.occurrences.filter (·.2.symbol = .grammar .atom)).flatMap (·.2.children) ∧
    tree.leaves = (if tree.isLeaf then [tree] else tree.children.flatMap leaves) ∧
    tree.atoms =
      (if tree.symbol = .grammar .atom then tree.children else []) ++
        tree.children.flatMap atoms ∧
    tree.nodes.length = 1 + (tree.children.map (·.nodes.length)).sum := by
  have hnodes : tree.nodes = tree :: tree.children.flatMap nodes := by
    rw [nodes, visit_cons, List.append_nil, visit_eq_flatMap]
  refine ⟨hnodes, ⟨map_snd_occurrences tree, occurrences_ascend tree,
    fun _ _ => mem_occurrences_iff tree⟩, ?_, ?_, ?_, ?_, ?_⟩
  · rw [leaves, ← map_snd_occurrences, List.filter_map]
    rfl
  · rw [atoms_eq, ← map_snd_occurrences, List.filter_map, List.flatMap_map]
    rfl
  · cases tree with
    | leaf cls text => exact leaves_leaf cls text
    | branch rule children => exact leaves_branch rule children
  · cases tree with
    | leaf cls text => exact atoms_leaf cls text
    | branch rule children => simp [symbol, Tree.children]
  · rw [hnodes, List.length_cons, List.length_flatMap, Nat.add_comm]

end Sexpr.Tree
