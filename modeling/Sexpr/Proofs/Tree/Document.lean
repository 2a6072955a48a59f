import Sexpr.Proofs.Json.Reading
import Sexpr.Proofs.Text.Lines
import Sexpr.Proofs.Tree.Draft
import Sexpr.Tree.Document

/-!
The JSON text of a tree. Its lines are written from a list of what is still to write; put together
they are the indented text of the tree's document. A tree can be told from its document, and the
document from its text, so the text loses nothing.
-/

namespace Sexpr

open Text (spaces unlines)

/-- Spaces to the right break down where a line as wide does. -/
theorem Breakdown.ofSpaces?_natCast (limits : Limits) (count : Nat) :
    ofSpaces? limits count = ofWidth? limits count := by
  rw [ofSpaces?, if_neg (by omega)]

namespace Json

mutual
/-- How many levels deep the lines of a document's text stand. -/
def depth : Json → Nat
  | .text _ | .number _ => 0
  | .array items => depthItems items
  | .object members => depthMembers members

def depthItems : List Json → Nat
  | [] => 0
  | item :: items => max (depth item + 1) (depthItems items)

def depthMembers : List (String × Json) → Nat
  | [] => 0
  | (_, value) :: members => max (depth value + 1) (depthMembers members)
end

/-- What printing a document breaks down at, if at anything: it takes the blanks of one level, and
then as many of these as its lines stand levels deep. -/
def renderObstacle? (limits : Limits) (document : Json) (indent : Nat) : Option Breakdown :=
  (List.range (max 1 document.depth)).findSome? fun level =>
    Breakdown.ofWidth? limits (indent * (level + 1 : Nat))

/-- The text of a document as recursion prints it, if it can be printed. -/
def write (limits : Limits) (document : Json) (indent : Nat) : Except Breakdown String :=
  match document.renderObstacle? limits indent with
  | some cause => .error cause
  | none => .ok (document.render indent 0)

end Json

namespace Tree

theorem quoted_kind : "\"kind\": " = Json.quote "kind" ++ ": " := by decide

theorem quoted_text : "\"text\": " = Json.quote "text" ++ ": " := by decide

theorem quoted_children : "\"children\": [" = Json.quote "children" ++ (": " ++ "[") := by decide

theorem quoted_no_children : "\"children\": []" = Json.quote "children" ++ (": " ++ "[]") := by
  decide

-- Writing a node puts its children back on the list of what is pending, so the induction is on the
-- tree and not on that list; what is pending behind the tree stays as it is.
mutual
/-- The lines of a node are the text of its document, indented as deep as the node, and what follows
it on its last line. -/
theorem unlines_documentLines_node (indent depth : Nat) (tail : String) (tree : Tree)
    (pending : List Pending) :
    unlines (documentLines indent (.node tree depth tail :: pending)) =
      spaces (indent * depth) ++ (tree.toJson.render indent depth ++ (tail ++ ("\n" ++
        unlines (documentLines indent pending)))) := by
  match tree with
  | .leaf cls text =>
    simp only [documentLines, Text.unlines_cons, toJson, Json.render, Json.renderMembers,
      Json.lineBreak, symbol, Symbol.name, quoted_kind, quoted_text, String.append_assoc,
      String.empty_append]
  | .branch rule [] =>
    simp only [documentLines, Text.unlines_cons, toJson, toJsons, Json.render,
      Json.renderMembers, Json.lineBreak, symbol, Symbol.name, quoted_kind, quoted_no_children,
      String.append_assoc, String.empty_append]
  | .branch rule (first :: rest) =>
    simp only [documentLines, Text.unlines_cons, toJson, toJsons, Json.render,
      Json.renderMembers, Json.lineBreak, symbol, Symbol.name, quoted_kind, quoted_children,
      String.append_assoc]
    rw [unlines_documentLines_siblings]
    simp only [documentLines, Text.unlines_cons, String.append_assoc, String.empty_append]
termination_by sizeOf tree

/-- The lines of siblings are the texts of their documents with commas between them. -/
theorem unlines_documentLines_siblings (indent depth : Nat) (first : Tree) (rest : List Tree)
    (pending : List Pending) :
    unlines (documentLines indent (siblings (depth + 1) (first :: rest) ++ pending)) =
      spaces (indent * (depth + 1)) ++ (first.toJson.render indent (depth + 1) ++
        (Json.renderItems indent depth (toJsons rest) ++ ("\n" ++
          unlines (documentLines indent pending)))) := by
  match rest with
  | [] =>
    rw [siblings, List.singleton_append, unlines_documentLines_node, toJsons, Json.renderItems]
  | second :: rest =>
    rw [siblings, List.cons_append, unlines_documentLines_node, toJsons, Json.renderItems,
      unlines_documentLines_siblings]
    · simp only [Json.lineBreak, String.append_assoc]
    · simp
termination_by sizeOf (first :: rest)
end

theorem documentLines_node_ne_nil (indent depth : Nat) (tail : String) (tree : Tree)
    (pending : List Pending) : documentLines indent (.node tree depth tail :: pending) ≠ [] := by
  match tree with
  | .leaf _ _ | .branch _ [] | .branch _ (_ :: _) => simp [documentLines]

/-- Joined by line breaks, the lines of a tree are the text of its document. -/
theorem documentText_eq_render (tree : Tree) (indent : Nat) :
    tree.documentText indent = tree.toJson.render indent 0 := by
  have hjoin := Text.intercalate_append_break (documentLines_node_ne_nil indent 0 "" tree [])
  have hnode := unlines_documentLines_node indent 0 "" tree []
  have hempty : unlines (documentLines indent []) = "" := by rw [documentLines]; rfl
  have hmargin : spaces (indent * 0) = "" := by rw [Nat.mul_zero]; rfl
  rw [← hjoin, hempty, hmargin, String.empty_append, String.empty_append, String.append_empty]
    at hnode
  rw [documentText, (String.append_left_inj _).mp hnode]

theorem levels_pos (tree : Tree) : 0 < tree.levels := by
  cases tree <;> simp only [levels] <;> omega

mutual
/-- Every node but the innermost takes two levels of lines, one for itself and one for its
children. -/
theorem depth_toJson (tree : Tree) : tree.toJson.depth = 2 * tree.levels - 1 := by
  match tree with
  | .leaf _ _ => simp [toJson, Json.depth, Json.depthMembers, levels]
  | .branch _ children =>
    have hchildren := depthItems_toJsons children
    simp only [toJson, Json.depth, Json.depthMembers, levels, hchildren]
    omega

theorem depthItems_toJsons (trees : List Tree) :
    Json.depthItems (toJsons trees) = 2 * levelsAll trees := by
  match trees with
  | [] => rw [toJsons, Json.depthItems, levelsAll]
  | tree :: rest =>
    have hpos := tree.levels_pos
    have htree := depth_toJson tree
    rw [toJsons, Json.depthItems, levelsAll, htree, depthItems_toJsons rest]
    omega
end

/-- Writing the text of a tree's document breaks down where printing the document does. -/
theorem documentObstacle?_eq (limits : Limits) (tree : Tree) (indent : Nat) :
    tree.documentObstacle? limits indent = tree.toJson.renderObstacle? limits indent := by
  have hpos := tree.levels_pos
  have hsteps : max 1 (2 * tree.levels - 1) = 2 * tree.levels - 1 := by omega
  rw [documentObstacle?, Json.renderObstacle?, depth_toJson, hsteps]
  simp only [← Int.natCast_mul, Breakdown.ofSpaces?_natCast]

theorem writeDocument_branch (limits : Limits) (rule : Rule) (children : List Tree) (indent : Nat) :
    (Tree.branch rule children).writeDocument limits indent =
      (toJson (.branch rule children)).write limits indent := by
  cases hobstacle : Json.renderObstacle? limits (toJson (.branch rule children)) indent <;>
    simp [writeDocument, isLeaf, documentObstacle?_eq, documentText_eq_render, Json.write,
      hobstacle]

/-- The text of a tree's document is the standard one: that of the document which recursion gives,
printed by recursion. The document that is drafted of the tree is the same, and where a line would
be too wide for the one text it would be for the other, and for the same reason. -/
theorem writeDocument_standard (limits : Limits) (rule : Rule) (children : List Tree)
    (indent : Nat) :
    let tree := Tree.branch rule children
    tree.document = tree.toJson ∧
    tree.documentText indent = tree.document.render indent 0 ∧
    tree.writeDocument limits indent = tree.document.write limits indent := by
  intro tree
  rw [document_eq_toJson]
  exact ⟨rfl, tree.documentText_eq_render indent, writeDocument_branch limits rule children indent⟩

mutual
def ofDocument? : Json → Option Tree
  | .object [("kind", .text name), ("text", .text word)] =>
    match Symbol.ofName name with
    | .ok (.lexical cls) => some (.leaf cls word)
    | _ => none
  | .object [("kind", .text name), ("children", .array docs)] =>
    match Symbol.ofName name with
    | .ok (.grammar rule) => (ofDocuments? docs).map (.branch rule)
    | _ => none
  | _ => none

def ofDocuments? : List Json → Option (List Tree)
  | [] => some []
  | doc :: docs => (ofDocument? doc).bind fun tree => (ofDocuments? docs).map (tree :: ·)
end

mutual
/-- A document says which tree it is of. -/
theorem ofDocument?_toJson (tree : Tree) : ofDocument? tree.toJson = some tree := by
  match tree with
  | .leaf cls word =>
    have hkind := Symbol.ofName_name (.lexical cls)
    rw [Symbol.name] at hkind
    simp only [toJson, ofDocument?, hkind]
  | .branch rule children =>
    have hkind := Symbol.ofName_name (.grammar rule)
    rw [Symbol.name] at hkind
    simp only [toJson, ofDocument?, hkind, ofDocuments?_toJsons children, Option.map_some]

theorem ofDocuments?_toJsons (trees : List Tree) :
    ofDocuments? (toJsons trees) = some trees := by
  match trees with
  | [] => rw [toJsons, ofDocuments?]
  | tree :: rest =>
    simp only [toJsons, ofDocuments?, ofDocument?_toJson tree, ofDocuments?_toJsons rest,
      Option.map_some, Option.bind_some]
end

def read? (text : String) : Option Tree :=
  (Json.ofText? text).bind ofDocument?

theorem read?_documentText (tree : Tree) (indent : Nat) :
    read? (tree.documentText indent) = some tree := by
  rw [documentText_eq_render, read?, Json.ofText?_render, Option.bind_some, ofDocument?_toJson]

/-- What is written of a tree is the text of its document. -/
theorem documentText_of_written {limits : Limits} {tree : Tree} {indent : Nat} {text : String}
    (h : tree.writeDocument limits indent = .ok text) : tree.documentText indent = text := by
  unfold writeDocument at h
  split at h
  · cases h
  · split at h
    · cases h
    · exact Except.ok.inj h

/-- The text of a tree's document loses nothing: one reader gets every tree back, whatever the
indentation. Two texts are therefore the same only if they are of the same tree. A text is written
of every tree but where a line would be too wide. -/
theorem writeDocument_lossless :
    (∀ (limits : Limits) (rule : Rule) (children : List Tree) (indent : Nat),
      let tree := Tree.branch rule children
      read? (tree.documentText indent) = some tree ∧
      tree.writeDocument limits indent =
        (tree.documentObstacle? limits indent).elim (.ok (tree.documentText indent)) .error) ∧
    (∀ (tree tree' : Tree) (indent indent' : Nat),
      (tree.documentText indent = tree'.documentText indent' → tree = tree') ∧
      ∀ limits limits' text, tree.writeDocument limits indent = .ok text →
        tree'.writeDocument limits' indent' = .ok text → tree = tree') := by
  have happart {tree tree' : Tree} {indent indent' : Nat}
      (h : tree.documentText indent = tree'.documentText indent') : tree = tree' := by
    have hread := read?_documentText tree indent
    rw [h, read?_documentText tree' indent'] at hread
    exact (Option.some.inj hread).symm
  constructor
  · intro limits rule children indent
    refine ⟨read?_documentText _ indent, ?_⟩
    rw [writeDocument, if_neg (by simp [isLeaf]), Int.toNat_natCast]
    cases documentObstacle? limits (.branch rule children) indent <;> rfl
  · intro tree tree' indent indent'
    refine ⟨happart, fun limits limits' text h h' => ?_⟩
    have htexts := (documentText_of_written h).trans (documentText_of_written h').symm
    exact happart htexts

/-- A line break in a word and the two characters it is written with make different texts. -/
theorem writeDocument_lossless_escape :
    (Tree.branch .atom [.leaf .id "\n"]).documentText 0 ≠
      (Tree.branch .atom [.leaf .id "\\n"]).documentText 0 := by
  intro h
  have htree := (writeDocument_lossless.2 _ _ 0 0).1 h
  simp at htree

end Tree

end Sexpr
