import Sexpr.Proofs.Text.Lines
import Sexpr.Proofs.Tree.Walk
import Sexpr.Tree.Listing

/-!
Listings of trees. The lines are written from a list of what is pending, in which every tree has the
margin of its first line with it and nothing says how deep it stands. `outline` gives the nodes with
their depths, and the lines of a listing are those of its nodes: the margin is the one of the
listing and two spaces for each level above the node.
-/

namespace Sexpr.Tree

open Text (spaces padRight lines unlines)

mutual
/-- The nodes of a tree that stands so many levels deep, with their depths and each before its
children. -/
def outline (depth : Nat) : Tree → List (Nat × Tree)
  | .leaf cls text => [(depth, .leaf cls text)]
  | .branch rule children => (depth, .branch rule children) :: outlineAll (depth + 1) children

def outlineAll (depth : Nat) : List Tree → List (Nat × Tree)
  | [] => []
  | tree :: trees => outline depth tree ++ outlineAll depth trees
end

mutual
/-- The order of the outline is that of the walk through the tree. -/
theorem map_outline (depth : Nat) (tree : Tree) : (outline depth tree).map (·.2) = tree.nodes := by
  match tree with
  | .leaf cls text => simp [outline]
  | .branch rule children => simp [outline, map_outlineAll (depth + 1) children]

theorem map_outlineAll (depth : Nat) (trees : List Tree) :
    (outlineAll depth trees).map (·.2) = trees.flatMap nodes := by
  match trees with
  | [] => rfl
  | tree :: rest =>
      rw [outlineAll, List.map_append, map_outline depth tree, map_outlineAll depth rest,
        List.flatMap_cons]
end

theorem outline_ne_nil (depth : Nat) (tree : Tree) : outline depth tree ≠ [] := by
  match tree with
  | .leaf _ _ | .branch _ _ => simp [outline]

/-- What stands in front of the word of a node so many levels deep: the margin, two spaces for each
level, and the name of the node's symbol, filled up to the column, with a space behind it. -/
def lead (margin : String) (column : Int) (depth : Nat) (node : Tree) : String :=
  margin ++ spaces (2 * depth) ++
    padRight (max (column - margin.length - 2 * depth) 0).toNat node.symbol.name ++ " "

theorem length_spaces (n : Nat) : (spaces n).length = n := by
  simp [spaces]

def row (margin : String) (column : Int) : Nat × Tree → String
  | (depth, node) => lead margin column depth node ++ node.text

/-- A margin that has grown by two spaces for each level makes the line of that level. -/
theorem line_spaces (margin : String) (column : Int) (depth : Nat) (node : Tree) :
    node.line (margin ++ spaces (2 * depth)) column = row margin column (depth, node) := by
  have hwidth : (column - (margin ++ spaces (2 * depth)).length).toNat =
      (max (column - margin.length - 2 * depth) 0).toNat := by
    rw [String.length_append, length_spaces]
    omega
  rw [line, row, lead, hwidth]

/-- The word of a node stands at the column, or behind the name if that reaches further. -/
theorem length_lead (margin : String) (column : Int) (depth : Nat) (node : Tree) :
    ((lead margin column depth node).length : Int) =
      max column (margin.length + 2 * depth + node.symbol.name.length) + 1 := by
  have hspace : " ".length = 1 := rfl
  simp only [lead, padRight, String.length_append, length_spaces, hspace]
  omega

theorem feed_not_mem_name (symbol : Symbol) : '\n' ∉ symbol.name.toList := by
  match symbol with
  | .lexical cls => cases cls <;> decide
  | .grammar rule => cases rule <;> decide

theorem feed_not_mem_spaces (n : Nat) : '\n' ∉ (spaces n).toList := by
  simp [spaces]

theorem feed_not_mem_lead {margin : String} (h : '\n' ∉ margin.toList) (column : Int) (depth : Nat)
    (node : Tree) : '\n' ∉ (lead margin column depth node).toList := by
  simp [lead, padRight, h, feed_not_mem_name, feed_not_mem_spaces]

/-- The lines of the trees that are pending first come before those of the others. -/
theorem listingLines_append (column : Int) (front back : List (String × Tree)) :
    listingLines column (front ++ back) =
      listingLines column front ++ listingLines column back := by
  match front with
  | [] => rw [listingLines, List.nil_append, List.nil_append]
  | (margin, tree) :: pending =>
      rw [List.cons_append, listingLines, listingLines, ← List.append_assoc,
        listingLines_append column (tree.children.map (margin ++ "  ", ·) ++ pending) back,
        List.cons_append]
termination_by sizeAll (front.map (·.2))
decreasing_by
  have := sizeAll_children_lt tree
  rw [List.map_append, sizeAll_append, sizeAll_map_snd_children]
  simp only [List.map_cons, sizeAll]
  omega

theorem spaces_step (depth : Nat) : spaces (2 * depth) ++ "  " = spaces (2 * (depth + 1)) := by
  have htwo : "  " = spaces 2 := rfl
  rw [htwo, spaces, spaces, ← String.ofList_append, List.replicate_append_replicate]
  rfl

mutual
/-- The lines of a tree are those of its outline, whatever its margin has grown to. -/
theorem listingLines_outline (margin : String) (column : Int) (depth : Nat) (tree : Tree) :
    listingLines column [(margin ++ spaces (2 * depth), tree)] =
      (outline depth tree).map (row margin column) := by
  match tree with
  | .leaf cls text =>
      rw [listingLines, line_spaces, children, List.map_nil, List.nil_append, listingLines]
      rfl
  | .branch rule trees =>
      have hbelow := listingLines_outlineAll margin column (depth + 1) trees
      rw [listingLines, line_spaces, children, List.append_nil, String.append_assoc, spaces_step,
        hbelow]
      rfl

theorem listingLines_outlineAll (margin : String) (column : Int) (depth : Nat)
    (trees : List Tree) :
    listingLines column (trees.map (margin ++ spaces (2 * depth), ·)) =
      (outlineAll depth trees).map (row margin column) := by
  match trees with
  | [] => rw [List.map_nil, listingLines, outlineAll, List.map_nil]
  | tree :: rest =>
      rw [List.map_cons, ← List.singleton_append, listingLines_append,
        listingLines_outline margin column depth tree,
        listingLines_outlineAll margin column depth rest, outlineAll, List.map_append]
end

def rows (tree : Tree) (margin : String) (column : Int) : List String :=
  (outline 0 tree).map (row margin column)

theorem listing_eq_rows (tree : Tree) (margin : String) (column : Int) :
    tree.listing margin column = "\n".intercalate (tree.rows margin column) := by
  have hlines := listingLines_outline margin column 0 tree
  have hmargin : margin ++ spaces (2 * 0) = margin := String.append_empty
  rw [hmargin] at hlines
  rw [listing, hlines, rows]

theorem listing_append_break (tree : Tree) (margin : String) (column : Int) :
    tree.listing margin column ++ "\n" = unlines (tree.rows margin column) := by
  have hrows : tree.rows margin column ≠ [] := by
    rw [rows, Ne, List.map_eq_nil_iff]
    exact outline_ne_nil 0 tree
  rw [listing_eq_rows, Text.intercalate_append_break hrows]

/-- Branches have no words of their own, so what is counted in the words of all nodes is counted in
those of the leaves. -/
theorem sum_nodes_eq_leaves (tree : Tree) (count : String → Nat) (hempty : count "" = 0) :
    (tree.nodes.map fun node => count node.text).sum =
      (tree.leaves.map fun leaf => count leaf.text).sum := by
  rw [leaves]
  induction tree.nodes with
  | nil => rfl
  | cons node nodes ih =>
      cases node with
      | leaf cls text =>
          rw [List.filter_cons_of_pos rfl, List.map_cons, List.map_cons, List.sum_cons,
            List.sum_cons, ih]
      | branch rule children =>
          rw [List.filter_cons_of_neg (by simp [isLeaf]), List.map_cons, List.sum_cons, ih, text,
            hempty, Nat.zero_add]

/-- The line feeds of a listing are those between its lines and those in the words of leaves. -/
theorem length_lines_listing (tree : Tree) {margin : String} (h : '\n' ∉ margin.toList)
    (column : Int) :
    (lines (tree.listing margin column).toList).length =
      tree.nodes.length + (tree.leaves.map fun leaf => leaf.text.toList.count '\n').sum := by
  have hcount := congrArg (fun text => text.toList.count '\n')
    (listing_append_break tree margin column)
  have hfeed : "\n".toList.count '\n' = 1 := rfl
  simp only [String.toList_append, List.count_append, hfeed, Text.count_unlines] at hcount
  have hrows : (tree.rows margin column).map (fun row => row.toList.count '\n') =
      tree.nodes.map fun node => node.text.toList.count '\n' := by
    rw [← map_outline 0 tree, rows, List.map_map, List.map_map]
    refine List.map_congr_left fun (depth, node) _ => ?_
    simp [row, List.count_eq_zero_of_not_mem (feed_not_mem_lead h column depth node)]
  have hlength : (tree.rows margin column).length = tree.nodes.length := by
    rw [← map_outline 0 tree, rows, List.length_map, List.length_map]
  rw [Text.length_lines, hcount, hrows, hlength,
    sum_nodes_eq_leaves tree (fun word => word.toList.count '\n') rfl]

/-- The line of a node stands in the listing behind those of the nodes before it. -/
theorem exists_listing_eq (tree : Tree) (margin : String) (column : Int)
    {before after : List (Nat × Tree)} {depth : Nat} {node : Tree}
    (h : outline 0 tree = before ++ (depth, node) :: after) :
    ∃ rest, tree.listing margin column =
      unlines (before.map (row margin column)) ++ (row margin column (depth, node) ++ rest) := by
  have hbreak := listing_append_break tree margin column
  rw [rows, h, List.map_append, List.map_cons, Text.unlines_append, Text.unlines_cons] at hbreak
  by_cases hafter : after = []
  · refine ⟨"", (String.append_left_inj "\n").mp ?_⟩
    rw [hbreak, hafter, List.map_nil, Text.unlines_nil]
    simp only [String.append_assoc, String.append_empty]
  · have hrows : after.map (row margin column) ≠ [] := by rwa [Ne, List.map_eq_nil_iff]
    refine ⟨"\n" ++ "\n".intercalate (after.map (row margin column)),
      (String.append_left_inj "\n").mp ?_⟩
    rw [hbreak, ← Text.intercalate_append_break hrows]
    simp only [String.append_assoc]

/-- A listing can be written unless its column is wider than a line can be or than the memory lets
it be. It has a line for each node, in the order of the walk through the tree; the lines are joined
by line feeds, and more line feeds are only in the words of leaves. In its line, each node's word
stands at the column, or right behind the name where the name reaches further. -/
theorem writeListing_outline (limits : Limits) (tree : Tree) (margin : String)
    (hmargin : '\n' ∉ margin.toList) (column : Int) :
    tree.writeListing limits margin column =
      (Breakdown.ofWidth? limits (column - margin.length)).elim
        (.ok (tree.listing margin column)) .error ∧
    tree.listing margin column = "\n".intercalate (tree.rows margin column) ∧
    (outline 0 tree).map (·.2) = tree.nodes ∧
    (lines (tree.listing margin column).toList).length =
      tree.nodes.length + (tree.leaves.map fun leaf => leaf.text.toList.count '\n').sum ∧
    ∀ before depth node after, outline 0 tree = before ++ (depth, node) :: after →
      (∃ rest, tree.listing margin column =
        unlines (before.map (row margin column)) ++
          (lead margin column depth node ++ node.text ++ rest)) ∧
      '\n' ∉ (lead margin column depth node).toList ∧
      ((lead margin column depth node).length : Int) =
        max column (margin.length + 2 * depth + node.symbol.name.length) + 1 := by
  refine ⟨?_, listing_eq_rows tree margin column, map_outline 0 tree,
    length_lines_listing tree hmargin column, fun before depth node after h => ?_⟩
  · rw [writeListing, listingObstacle?]
    cases Breakdown.ofWidth? limits (column - margin.length) <;> rfl
  · exact ⟨exists_listing_eq tree margin column h, feed_not_mem_lead hmargin column depth node,
      length_lead margin column depth node⟩

/-- A negative column, which fills up nothing, and a word on two lines. -/
theorem writeListing_outline_narrow :
    let tree := Tree.branch .atom [.leaf .string "\"a\nb\""]
    '\n' ∉ "| ".toList ∧
    tree.writeListing .usual "| " (-3) = .ok "| Atom \n|   STRING \"a\nb\"" ∧
    (lines (tree.listing "| " (-3)).toList).length = 3 := by
  intro tree
  obtain ⟨hwritten, hrows, -, hlines, -⟩ := writeListing_outline .usual tree "| " (by decide) (-3)
  refine ⟨by decide, ?_, ?_⟩
  · rw [hwritten, hrows]
    decide
  · rw [hlines, nodes_branch, leaves_branch, List.flatMap_singleton, List.flatMap_singleton,
      nodes_leaf, leaves_leaf]
    rfl

/-- Where the column is wider than any text, there is no listing. -/
theorem writeListing_too_wide :
    let tree := Tree.leaf .id "a"
    tree.writeListing .usual "" 9223372036854775808 = .error .tooWide ∧
    tree.writeListing .usual "" 9223372036854775808 ≠
      .ok ("\n".intercalate (tree.rows "" 9223372036854775808)) := by
  intro tree
  have hwide : tree.writeListing .usual "" 9223372036854775808 = .error .tooWide := rfl
  exact ⟨hwide, by rw [hwide]; exact nofun⟩

end Sexpr.Tree
