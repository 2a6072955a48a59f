import Sexpr.Program
import Sexpr.Proofs.Grammar.Language
import Sexpr.Proofs.Grammar.Places
import Sexpr.Proofs.Token.Layout

/-!
Reading what was written. A tree is written down as the words of its leaves with single spaces
between them. The words are cut apart again, whatever they were cut out of at first, and parsing
does not care that they stand at other places now; so the tree is read back.
-/

namespace Sexpr

open Grammar

/-- The words of the leaves with single spaces between them. -/
def Tree.spelling (tree : Tree) : String :=
  " ".intercalate (tree.leaves.map Tree.text)

theorem Program.read_ok_iff {strict : Bool} {text : String} {tree : Tree} :
    (Program.read strict text).2 = .ok tree ↔
      ∃ tokens, tokenize text = .ok tokens ∧ parse strict tokens = .ok tree := by
  unfold Program.read
  cases tokenize text with
  | error cause => simp
  | ok tokens => cases hparse : parse strict tokens <;> simp [hparse]

def Tree.token (leaf : Tree) : Token :=
  ⟨leaf.symbol, leaf.text, 0⟩

/-- Leaves that are lexemes are found again in the spelling of their tree. -/
theorem tokenize_spelling {tree : Tree} (hleaves : ∀ leaf ∈ tree.leaves, leaf.token.IsLexeme) :
    ∃ tokens, tokenize tree.spelling = .ok tokens ∧
      tokens.map Token.content = tree.contents ∧ ∀ token ∈ tokens, token.WellClassed := by
  have hwords : ∀ word ∈ tree.leaves.map Tree.token, word.IsLexeme := by
    simpa using hleaves
  obtain ⟨tokens, lexing, hcontents⟩ := Lexing.exists_spaced hwords 0
  have htext : tree.spelling.toList =
      [' '].intercalate ((tree.leaves.map Tree.token).map fun word => word.text.toList) := by
    rw [Tree.spelling, String.toList_intercalate, List.map_map, List.map_map]
    rfl
  rw [← htext] at lexing
  refine ⟨tokens, tokenize_eq_ok_iff.mpr lexing, ?_, ?_⟩
  · rw [hcontents, List.map_map]
    rfl
  · intro token member
    exact (lexing.isLexeme token member).wellClassed

/-- The leaves of a tree that was parsed are the lexemes of its text. -/
theorem isLexeme_of_mem_leaves {strict : Bool} {text : String} {tokens : List Token} {tree : Tree}
    (htokens : tokenize text = .ok tokens) (hparse : parse strict tokens = .ok tree) :
    ∀ leaf ∈ tree.leaves, leaf.token.IsLexeme := by
  intro leaf member
  have hcontents : tree.contents = tokens.map Token.content := contents_of_parseWithin hparse
  have hleaf : (leaf.symbol, leaf.text) ∈ tree.contents := List.mem_map_of_mem member
  rw [hcontents] at hleaf
  obtain ⟨token, htoken, hcontent⟩ := List.mem_map.mp hleaf
  exact ((tokenize_eq_ok_iff.mp htokens).isLexeme token htoken).of_content_eq hcontent

/-- Reading undoes writing. Every program whose leaves are lexemes is read from its spelling; and
whatever was read from any text, its leaves are lexemes and it is read again from its spelling. -/
theorem read_spelling :
    (∀ tree, Derives .program tree → tree.nesting ≤ nestingLimit →
      (∀ leaf ∈ tree.leaves,
        tokenize leaf.text = .ok [⟨leaf.symbol, leaf.text, 0⟩]) →
      ∀ strict, (Program.read strict tree.spelling).2 = .ok tree) ∧
    ∀ strict text tree, (Program.read strict text).2 = .ok tree →
      (∀ leaf ∈ tree.leaves, tokenize leaf.text = .ok [⟨leaf.symbol, leaf.text, 0⟩]) ∧
        (Program.read strict tree.spelling).2 = .ok tree := by
  constructor
  · intro tree derives hnesting hleaves strict
    have hlexemes : ∀ leaf ∈ tree.leaves, leaf.token.IsLexeme :=
      fun leaf member => Token.tokenize_text_iff.mp (hleaves leaf member)
    obtain ⟨tokens, htokens, hcontents, hclass⟩ := tokenize_spelling hlexemes
    have hparse := derives.parseWithin_ok hnesting ⟨hcontents, hclass⟩ strict
    exact Program.read_ok_iff.mpr ⟨tokens, htokens, hparse⟩
  · intro strict text tree hread
    obtain ⟨tokens, htokens, hparse⟩ := Program.read_ok_iff.mp hread
    have hlexemes := isLexeme_of_mem_leaves htokens hparse
    refine ⟨fun leaf member => Token.tokenize_text_iff.mpr (hlexemes leaf member), ?_⟩
    obtain ⟨respelled, hrespelled, hcontents, -⟩ := tokenize_spelling hlexemes
    have hsame : tokens.map Token.content = respelled.map Token.content := by
      rw [hcontents]
      exact (contents_of_parseWithin hparse).symm
    exact Program.read_ok_iff.mpr ⟨respelled, hrespelled, parseWithin_ok_of_contents hsame hparse⟩

/-- A list with a string in it, and two words with no space between them that are no program in
strict mode. -/
theorem read_spelling_unspaced :
    let list : Tree := .branch .program [.branch .sexpr [.branch .list [.leaf .literal "(",
      .branch .seq [atomTree (.leaf .string "\"a b\"")], .leaf .literal ")"]]]
    let words : Tree := .branch .program [atomTree (.leaf .int "5"), atomTree (.leaf .literal ")")]
    (Program.read true list.spelling).2 = .ok list ∧ (Program.read false "5)").2 = .ok words ∧
      (Program.read false words.spelling).2 = .ok words := by
  intro list words
  have derives : Derives .program list := by
    refine .program ?_
    rw [List.forall_mem_singleton]
    exact .nested (.filled (.last (.word (.atom rfl))))
  have hnesting : list.nesting ≤ nestingLimit := by decide
  have hleaves : ∀ leaf ∈ list.leaves,
      tokenize leaf.text = .ok [⟨leaf.symbol, leaf.text, 0⟩] := by
    have hlist : list.leaves =
        [.leaf .literal "(", .leaf .string "\"a b\"", .leaf .literal ")"] := by
      simp [list, atomTree]
    rw [hlist, List.forall_mem_cons, List.forall_mem_cons, List.forall_mem_singleton]
    refine ⟨?_, ?_, ?_⟩
    · exact (@Token.tokenize_text_iff (Tree.leaf .literal "(").token).mpr ⟨_, rfl, rfl⟩
    · exact (@Token.tokenize_text_iff (Tree.leaf .string "\"a b\"").token).mpr ⟨_, rfl, rfl⟩
    · exact (@Token.tokenize_text_iff (Tree.leaf .literal ")").token).mpr ⟨_, rfl, rfl⟩
  have hread : (Program.read false "5)").2 = .ok words := by
    have htokens : tokenize "5)" =
        .ok [⟨.lexical .int, "5", 0⟩, ⟨.lexical .literal, ")", 1⟩] := by
      rw [tokenize_eq_ok_iff]
      refine @Lexing.cut _ _ ⟨.int, ['5']⟩ _ _ rfl ?_
      exact @Lexing.cut _ _ ⟨.literal, [')']⟩ _ _ rfl .finished
    have hlast : Reading ⟨false, 2⟩ nestingLimit (.expressions List.isEmpty)
        [⟨.lexical .literal, ")", 1⟩] (.ok [atomTree (.leaf .literal ")")] []) :=
      .more rfl (.atom (by decide) rfl rfl) (.done rfl)
    have hall : Reading ⟨false, 2⟩ nestingLimit (.expressions List.isEmpty)
        [⟨.lexical .int, "5", 0⟩, ⟨.lexical .literal, ")", 1⟩]
        (.ok [atomTree (.leaf .int "5"), atomTree (.leaf .literal ")")] []) :=
      .more rfl (.atom (by decide) rfl rfl) hlast
    exact Program.read_ok_iff.mpr ⟨_, htokens, parseWithin_ok_iff.mpr ⟨_, rfl, hall⟩⟩
  exact ⟨read_spelling.1 list derives hnesting hleaves true, hread,
    (read_spelling.2 false "5)" words hread).2⟩

end Sexpr
