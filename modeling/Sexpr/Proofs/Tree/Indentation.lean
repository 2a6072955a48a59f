import Sexpr.Proofs.Tree.Listing
import Sexpr.Symbol

/-!
Reading listings back. The margin and the column of a listing say where the parts of a line stand:
the spaces behind the margin give the depth of a node, the name up to the next space its symbol, and
what stands behind the column its word. From the depths alone the tree is put together again, line
by line from the last one: a branch takes the trees behind it that stand deeper. So a listing whose
words stand on one line each is that of one tree only.
-/

namespace Sexpr.Tree

open Text (spaces padRight lines)

/-- What a line says about a node: all but its children. -/
structure Stub where
  depth : Nat
  symbol : Symbol
  text : String

def Stub.ofNode (node : Nat × Tree) : Stub :=
  ⟨node.1, node.2.symbol, node.2.text⟩

/-- Puts a node in front of a forest whose roots stand at some depths. A branch takes the trees
right behind it that stand deeper; the word of a branch says nothing. -/
def graft : Stub → List (Nat × Tree) → List (Nat × Tree)
  | ⟨depth, .lexical cls, text⟩, forest => (depth, .leaf cls text) :: forest
  | ⟨depth, .grammar rule, _⟩, forest =>
    (depth, .branch rule ((forest.takeWhile (depth < ·.1)).map (·.2))) ::
      forest.dropWhile (depth < ·.1)

def forestOf (stubs : List Stub) (behind : List (Nat × Tree)) : List (Nat × Tree) :=
  stubs.foldr graft behind

theorem forestOf_append (front back : List Stub) (behind : List (Nat × Tree)) :
    forestOf (front ++ back) behind = forestOf front (forestOf back behind) :=
  List.foldr_append

/-- Of trees that all stand deeper, and of none behind them, a branch takes these. -/
theorem graft_branch {depth : Nat} {rule : Rule} {text : String} (children : List Tree)
    {behind : List (Nat × Tree)} (h : ∀ root ∈ behind.head?, root.1 ≤ depth) :
    graft ⟨depth, .grammar rule, text⟩ (children.map (depth + 1, ·) ++ behind) =
      (depth, .branch rule children) :: behind := by
  have hdeeper : ∀ root ∈ children.map (depth + 1, ·), decide (depth < root.1) = true := by
    simp
  have hstop : behind.takeWhile (depth < ·.1) = [] ∧ behind.dropWhile (depth < ·.1) = behind := by
    cases behind with
    | nil => exact ⟨rfl, rfl⟩
    | cons root rest =>
      have hroot : ¬depth < root.1 := Nat.not_lt.mpr (h root rfl)
      constructor
      · rw [List.takeWhile_cons_of_neg (by simpa using hroot)]
      · rw [List.dropWhile_cons_of_neg (by simpa using hroot)]
  rw [graft, List.takeWhile_append_of_pos hdeeper, List.dropWhile_append_of_pos hdeeper, hstop.1,
    hstop.2, List.append_nil, List.map_map]
  simp [Function.comp_def]

mutual
/-- The outline of a tree makes up this tree, in front of whatever does not stand deeper. -/
theorem forestOf_outline (depth : Nat) (tree : Tree) {behind : List (Nat × Tree)}
    (h : ∀ root ∈ behind.head?, root.1 ≤ depth) :
    forestOf ((outline depth tree).map Stub.ofNode) behind = (depth, tree) :: behind := by
  match tree with
  | .leaf cls text => rfl
  | .branch rule children =>
      have hbelow := forestOf_outlineAll (depth + 1) children fun root hroot =>
        Nat.le_succ_of_le (h root hroot)
      rw [outline, List.map_cons, forestOf, List.foldr_cons, ← forestOf, hbelow]
      exact graft_branch children h

theorem forestOf_outlineAll (depth : Nat) (trees : List Tree) {behind : List (Nat × Tree)}
    (h : ∀ root ∈ behind.head?, root.1 ≤ depth) :
    forestOf ((outlineAll depth trees).map Stub.ofNode) behind =
      trees.map (depth, ·) ++ behind := by
  match trees with
  | [] => rfl
  | tree :: rest =>
      have hrest := forestOf_outlineAll depth rest h
      have hroots : ∀ root ∈ (rest.map (depth, ·) ++ behind).head?, root.1 ≤ depth := by
        cases rest with
        | nil => exact h
        | cons next others =>
          rintro root hroot
          cases hroot
          exact Nat.le_refl depth
      rw [outlineAll, List.map_append, forestOf_append, hrest,
        forestOf_outline depth tree hroots]
      rfl
end

def readRow? (margin : String) (column : Int) (row : List Char) : Option Stub :=
  let behind := row.drop margin.length
  let indent := (behind.takeWhile (· = ' ')).length
  let name := (behind.drop indent).takeWhile (· ≠ ' ')
  let place := max column (margin.length + indent + name.length) + 1
  match Symbol.ofName (String.ofList name) with
  | .ok symbol => some ⟨indent / 2, symbol, String.ofList (row.drop place.toNat)⟩
  | .error _ => none

theorem toList_spaces (n : Nat) : (spaces n).toList = List.replicate n ' ' := by
  rw [spaces, String.toList_ofList]

/-- A name is there and is no word of several, so spaces set it apart on both sides. -/
theorem exists_name_eq_cons (symbol : Symbol) :
    ∃ first others, symbol.name.toList = first :: others ∧
      ∀ c ∈ first :: others, c ≠ ' ' := by
  have hplain : symbol.name.toList ≠ [] ∧ ' ' ∉ symbol.name.toList := by
    match symbol with
    | .lexical cls => cases cls <;> decide
    | .grammar rule => cases rule <;> decide
  obtain ⟨first, others, hname⟩ := List.exists_cons_of_ne_nil hplain.1
  refine ⟨first, others, hname, ?_⟩
  rintro c hc rfl
  exact hplain.2 (hname ▸ hc)

/-- A line behind its margin: spaces for the depth, the name, and one space at least. -/
theorem exists_drop_row (margin : String) (column : Int) (depth : Nat) (node : Tree) :
    ∃ rest, (row margin column (depth, node)).toList.drop margin.length =
      List.replicate (2 * depth) ' ' ++ (node.symbol.name.toList ++ ' ' :: rest) := by
  have hmargin : margin.toList.length = margin.length := String.length_toList
  have hspace : " ".toList = [' '] := rfl
  have hfilling (k : Nat) : List.replicate k ' ' ++ [' '] = ' ' :: List.replicate k ' ' := by
    rw [← List.replicate_succ', List.replicate_succ]
  generalize hk : (max (column - margin.length - 2 * depth) 0).toNat -
    node.symbol.name.length = k
  refine ⟨List.replicate k ' ' ++ node.text.toList, ?_⟩
  rw [← List.cons_append, ← hfilling, row, lead, padRight, hk]
  simp only [String.toList_append, toList_spaces, hspace, List.append_assoc]
  rw [List.drop_left' hmargin]

theorem readRow?_row (margin : String) (column : Int) (node : Nat × Tree) :
    readRow? margin column (row margin column node).toList = some (.ofNode node) := by
  obtain ⟨depth, node⟩ := node
  obtain ⟨first, others, hname, hplain⟩ := exists_name_eq_cons node.symbol
  obtain ⟨rest, hbehind⟩ := exists_drop_row margin column depth node
  have hindent : (((row margin column (depth, node)).toList.drop margin.length).takeWhile
      (· = ' ')).length = 2 * depth := by
    rw [hbehind, hname, List.takeWhile_append_of_pos (by simp)]
    have hfirst := hplain first List.mem_cons_self
    simp [hfirst]
  have hfound : (((row margin column (depth, node)).toList.drop margin.length).drop
      (2 * depth)).takeWhile (· ≠ ' ') = node.symbol.name.toList := by
    rw [hbehind, List.drop_left' List.length_replicate, hname,
      List.takeWhile_append_of_pos (by simpa using hplain)]
    simp
  have hplace : (max column (margin.length + (2 * depth : Nat) + node.symbol.name.toList.length) +
      1).toNat = (lead margin column depth node).toList.length := by
    have hlead := length_lead margin column depth node
    rw [String.length_toList, String.length_toList]
    omega
  have hword : (row margin column (depth, node)).toList.drop
      (lead margin column depth node).toList.length = node.text.toList := by
    rw [row, String.toList_append, List.drop_left]
  simp only [readRow?, hindent, hfound, String.ofList_toList, Symbol.ofName_name, hplace, hword]
  rw [Nat.mul_div_cancel_left depth (by decide)]
  rfl

def ofListing? (margin : String) (column : Int) (text : String) : Option Tree := do
  let stubs ← (lines text.toList).mapM (readRow? margin column)
  match forestOf stubs [] with
  | [(_, tree)] => some tree
  | _ => none

section Reading

variable {margin : String} (column : Int) {tree other : Tree}

/-- Where every word stands on one line, the lines of a listing are those of its nodes. -/
theorem lines_listing (hmargin : '\n' ∉ margin.toList)
    (hwords : ∀ leaf ∈ tree.leaves, '\n' ∉ leaf.text.toList) :
    lines (tree.listing margin column).toList =
      (outline 0 tree).map fun node => (row margin column node).toList := by
  have hnode : ∀ node ∈ outline 0 tree, '\n' ∉ node.2.text.toList := by
    rintro ⟨depth, node⟩ hmember
    have hnodes : node ∈ tree.nodes := by
      rw [← map_outline 0 tree]
      exact List.mem_map_of_mem hmember
    cases node with
    | leaf cls text => exact hwords _ (List.mem_filter.mpr ⟨hnodes, rfl⟩)
    | branch rule children => exact List.not_mem_nil
  have hrows : ∀ line ∈ (outline 0 tree).map fun node => (row margin column node).toList,
      '\n' ∉ line := by
    intro line hline
    obtain ⟨⟨depth, node⟩, hmember, rfl⟩ := List.mem_map.mp hline
    rw [row, String.toList_append, List.mem_append, not_or]
    exact ⟨feed_not_mem_lead hmargin column depth node, hnode _ hmember⟩
  have hsome : (outline 0 tree).map (fun node => (row margin column node).toList) ≠ [] := by
    rw [Ne, List.map_eq_nil_iff]
    exact outline_ne_nil 0 tree
  rw [listing_eq_rows, rows, String.toList_intercalate, List.map_map]
  exact List.splitOn_intercalate '\n' hrows hsome

/-- Reading a listing gives its tree back. -/
theorem ofListing?_listing (hmargin : '\n' ∉ margin.toList)
    (hwords : ∀ leaf ∈ tree.leaves, '\n' ∉ leaf.text.toList) :
    ofListing? margin column (tree.listing margin column) = some tree := by
  have hstubs : (lines (tree.listing margin column).toList).mapM (readRow? margin column) =
      some ((outline 0 tree).map Stub.ofNode) := by
    have hread : readRow? margin column ∘ (fun node => (row margin column node).toList) =
        fun node => pure (Stub.ofNode node) := by
      funext node
      rw [Function.comp_apply, readRow?_row]
      rfl
    rw [lines_listing column hmargin hwords, List.mapM_map, hread, List.mapM_pure]
    rfl
  have hforest : forestOf ((outline 0 tree).map Stub.ofNode) [] = [(0, tree)] :=
    forestOf_outline 0 tree nofun
  rw [ofListing?, hstubs, Option.bind_eq_bind, Option.bind_some, hforest]

/-- What is written is the listing. -/
theorem listing_of_written {limits : Limits} {text : String}
    (h : tree.writeListing limits margin column = .ok text) :
    tree.listing margin column = text := by
  rw [writeListing] at h
  cases hobstacle : listingObstacle? limits margin column with
  | none =>
      rw [hobstacle] at h
      exact Except.ok.inj h
  | some cause =>
      rw [hobstacle] at h
      cases h

end Reading

/-- Different trees are never listed alike: if all their words stand on one line each, two trees of
the same listing are the same, whatever the margin and the column. -/
theorem listing_told_apart {margin : String} (hmargin : '\n' ∉ margin.toList) (column : Int)
    {tree other : Tree} (htree : ∀ leaf ∈ tree.leaves, '\n' ∉ leaf.text.toList)
    (hother : ∀ leaf ∈ other.leaves, '\n' ∉ leaf.text.toList) :
    (tree.listing margin column = other.listing margin column → tree = other) ∧
    ∀ limits text, tree.writeListing limits margin column = .ok text →
      other.writeListing limits margin column = .ok text → tree = other := by
  have happart (h : tree.listing margin column = other.listing margin column) : tree = other := by
    have hread := ofListing?_listing column hmargin htree
    rw [h, ofListing?_listing column hmargin hother] at hread
    exact (Option.some.inj hread).symm
  refine ⟨happart, fun limits text hwritten hwritten' => happart ?_⟩
  rw [listing_of_written column hwritten, listing_of_written column hwritten']

/-- The same nodes under a column that their names fill up, told apart by the depth of the last. -/
theorem listing_told_apart_depth :
    let tree := Tree.branch .seq [.branch .seq [], .leaf .int " 5"]
    let other := Tree.branch .seq [.branch .seq [.leaf .int " 5"]]
    '\n' ∉ "> ".toList ∧ (∀ leaf ∈ tree.leaves, '\n' ∉ leaf.text.toList) ∧
      (∀ leaf ∈ other.leaves, '\n' ∉ leaf.text.toList) ∧
        tree.listing "> " (-1) ≠ other.listing "> " (-1) := by
  intro tree other
  have htree : ∀ leaf ∈ tree.leaves, '\n' ∉ leaf.text.toList := by
    simp [tree, text]
  have hother : ∀ leaf ∈ other.leaves, '\n' ∉ leaf.text.toList := by
    simp [other, text]
  have hmargin : '\n' ∉ "> ".toList := by decide
  refine ⟨hmargin, htree, hother, ?_⟩
  intro hlistings
  have hsame := (listing_told_apart hmargin (-1) htree hother).1 hlistings
  simp [tree, other] at hsame

end Sexpr.Tree
