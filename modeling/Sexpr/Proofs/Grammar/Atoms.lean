import Sexpr.Proofs.Grammar.Derivation

/-!
What becomes of the tokens of a program. Each of them is a leaf of the tree, in the order of the
text; those that stand below an atom are the words of the program, and in lenient mode the closing
parentheses that close nothing.
-/

namespace Sexpr

namespace Tree

/-- Every atom node holds one leaf, of one of the classes. -/
def AtomsAre (classes : TokenClass → Prop) (tree : Tree) : Prop :=
  ∀ node ∈ tree.nodes, node.symbol = .grammar .atom →
    ∃ cls word, classes cls ∧ node = .branch .atom [.leaf cls word]

variable {classes : TokenClass → Prop}

theorem atomsAre_leaf (cls : TokenClass) (word : String) :
    (leaf cls word).AtomsAre classes := by
  simp [AtomsAre, symbol]

theorem atomsAre_atom {cls : TokenClass} (h : classes cls) (word : String) :
    (branch .atom [leaf cls word]).AtomsAre classes := by
  intro node member hsymbol
  rw [nodes_branch, List.flatMap_singleton, List.mem_cons] at member
  rcases member with rfl | member
  · exact ⟨cls, word, h, rfl⟩
  · exact atomsAre_leaf cls word node member hsymbol

theorem atomsAre_branch_iff {rule : Rule} (hrule : rule ≠ .atom) {trees : List Tree} :
    (branch rule trees).AtomsAre classes ↔ ∀ tree ∈ trees, tree.AtomsAre classes := by
  constructor
  · intro h tree htree node member
    apply h
    rw [nodes_branch, List.mem_cons, List.mem_flatMap]
    exact .inr ⟨tree, htree, member⟩
  · intro h node member hsymbol
    rw [nodes_branch, List.mem_cons, List.mem_flatMap] at member
    rcases member with rfl | ⟨tree, htree, member⟩
    · cases hsymbol
      exact absurd rfl hrule
    · exact h tree htree node member hsymbol

theorem AtomsAre.mono {wider : TokenClass → Prop} {tree : Tree} (h : tree.AtomsAre classes)
    (hwider : ∀ cls, classes cls → wider cls) : tree.AtomsAre wider := by
  intro node member hsymbol
  obtain ⟨cls, word, hcls, hnode⟩ := h node member hsymbol
  exact ⟨cls, word, hwider cls hcls, hnode⟩

theorem AtomsAre.class_of_mem_atoms {tree : Tree} (h : tree.AtomsAre classes) :
    ∀ leaf ∈ tree.atoms, ∃ cls word, classes cls ∧ leaf = .leaf cls word := by
  intro leaf member
  obtain ⟨node, hnode, hleaf⟩ := List.mem_flatMap.mp member
  split at hleaf
  · rename_i hsymbol
    obtain ⟨cls, word, hcls, rfl⟩ := h node hnode hsymbol
    exact ⟨cls, word, hcls, List.mem_singleton.mp hleaf⟩
  · cases hleaf

end Tree

/-- The tokens that are no literals, and the closing parentheses that close nothing. -/
def Token.words (opened : Nat) : List Token → List Token
  | [] => []
  | token :: rest =>
      if token.kind ≠ .lexical .literal ∨ token.text = ")" ∧ opened = 0 then
        token :: words (token.openedAfter opened) rest
      else words (token.openedAfter opened) rest

theorem Token.filter_words (opened : Nat) (tokens : List Token) :
    (words opened tokens).filter (·.kind ≠ .lexical .literal) =
      tokens.filter (·.kind ≠ .lexical .literal) := by
  induction tokens generalizing opened with
  | nil => rfl
  | cons token rest ih =>
      rw [words]
      have hrest := ih (token.openedAfter opened)
      by_cases hkept : token.kind ≠ .lexical .literal ∨ token.text = ")" ∧ opened = 0
      · rw [if_pos hkept, List.filter_cons, List.filter_cons, hrest]
      · rw [if_neg hkept, hrest, List.filter_cons_of_neg]
        simpa using (not_or.mp hkept).1

namespace Grammar

/-- The atoms of a derivation are of the classes for atoms. -/
theorem Derives.atomsAre {rule : Rule} {tree : Tree} (derives : Derives rule tree) :
    tree.AtomsAre (·.isAtomic = true) := by
  induction derives with
  | atom hkind => exact Tree.atomsAre_atom hkind _
  | word hatom ih | nested hlist ih | last hexpression ih =>
      rw [Tree.atomsAre_branch_iff (by decide), List.forall_mem_singleton]
      exact ih
  | empty => simp [Tree.atomsAre_branch_iff, Tree.atomsAre_leaf]
  | filled hseq ih => simp [Tree.atomsAre_branch_iff, Tree.atomsAre_leaf, ih]
  | more hexpression hseq ihexpression ihseq =>
      simp [Tree.atomsAre_branch_iff, ihexpression, ihseq]
  | program hexpressions ih =>
      rw [Tree.atomsAre_branch_iff (by decide)]
      exact ih

/-- The one atom of a stray parenthesis is no word. -/
theorem atomsAre_stray : strayTree.AtomsAre (· = .literal) := by
  rw [strayTree, atomTree, Tree.atomsAre_branch_iff (by decide), List.forall_mem_singleton]
  exact @Tree.atomsAre_atom (· = .literal) .literal rfl ")"

theorem atoms_chain (first : Tree) (others : List Tree) :
    (chain first others).atoms = (first :: others).flatMap Tree.atoms := by
  induction others generalizing first with
  | nil => simp
  | cons second others ih => simp [ih]

theorem atoms_listTree (opening closing : Tree) (items : List Tree) :
    (listTree opening items closing).atoms =
      opening.atoms ++ (items.flatMap Tree.atoms ++ closing.atoms) := by
  cases items <;> simp [listTree, sequence, atoms_chain]

theorem atoms_of_ofToken {token : Token} {leaf : Tree} (h : Tree.ofToken token = .ok leaf) :
    leaf.atoms = [] := by
  obtain ⟨cls, -, rfl⟩ := Tree.ofToken_eq_ok h
  exact Tree.atoms_leaf cls token.text

section Words

variable {opened : Nat} {token : Token}

theorem words_parenthesis (hliteral : token.kind = .lexical .literal)
    (hcloses : token.text = ")" → opened ≠ 0) (rest : List Token) :
    Token.words opened (token :: rest) = Token.words (token.openedAfter opened) rest := by
  have hnone : ¬(token.kind ≠ .lexical .literal ∨ token.text = ")" ∧ opened = 0) := by
    rintro (hkind | ⟨htext, hzero⟩)
    · exact hkind hliteral
    · exact hcloses htext hzero
  rw [Token.words, if_neg hnone]

/-- A token that is read as an atom is a word, and leaves as many lists open as there were. -/
theorem words_atom (hclass : token.WellClassed) (hword : token.text ≠ "(")
    (hclose : token.text = ")" → opened = 0) (rest : List Token) :
    Token.words opened (token :: rest) = token :: Token.words opened rest := by
  have hkept : token.kind ≠ .lexical .literal ∨ token.text = ")" ∧ opened = 0 := by
    by_cases hliteral : token.kind = .lexical .literal
    · have htext := (hclass.1.mp hliteral).resolve_left hword
      exact .inr ⟨htext, hclose htext⟩
    · exact .inl hliteral
  have hopened : token.openedAfter opened = opened := by
    rw [Token.openedAfter, if_neg hword]
    split
    · rename_i htext
      rw [hclose htext]
    · rfl
  rw [Token.words, if_pos hkept, hopened]

end Words

private def said (node : Tree) : Symbol × String :=
  (node.symbol, node.text)

/-- The atoms of what is read are the words among the tokens that were taken. -/
theorem Reading.words_eq {mode : Mode} {levels : Nat} {goal : Goal} {tokens : List Token}
    {outcome : Outcome (List Tree)} (reading : Reading mode levels goal tokens outcome)
    {opened : Nat} (harises : goal.Arises opened tokens)
    (hclass : ∀ token ∈ tokens, token.WellClassed) {trees : List Tree} {rest : List Token}
    (hok : outcome = .ok trees rest) :
    (Token.words opened tokens).map Token.content =
      (trees.flatMap Tree.atoms).map said ++ (Token.words opened rest).map Token.content := by
  induction reading generalizing opened trees rest with
  | noAtom | notAtom | noLeaf | tooDeep | noOpening | inside | unclosed | noClosing | failed =>
      cases hok
  | @atom levels token rest leaf hword hkind hleaf =>
      cases hok
      have hown := hclass token List.mem_cons_self
      obtain ⟨cls, hcls, rfl⟩ := Tree.ofToken_eq_ok hleaf
      rw [words_atom hown hword harises.eq_zero_of_close]
      simp [atomTree, said, Tree.symbol, Tree.text, Token.content, hcls]
  | @list levels token rest opening items last after closing hword hleaf hitems hlast hclosing ih =>
      cases hok
      have hrest := (List.forall_mem_cons.mp hclass).2
      have hopen := (hclass token List.mem_cons_self).kind_of_parenthesis (.inl hword)
      have hclose := (hrest last (hitems.rest_suffix.subset List.mem_cons_self)).kind_of_parenthesis
        (.inr hlast)
      have hinner : (Goal.expressions closes).Arises (opened + 1) rest := rfl
      have hopened : token.openedAfter opened = opened + 1 := if_pos hword
      have hclosed : last.openedAfter (opened + 1) = opened := by
        simp [Token.openedAfter, hlast]
      rw [words_parenthesis hopen (by simp [hword]), hopened, ih hinner hrest rfl,
        words_parenthesis hclose (by simp), hclosed]
      simp [atoms_listTree, atoms_of_ofToken hleaf, atoms_of_ofToken hclosing]
  | done =>
      cases hok
      rfl
  | more hstop hfirst _ ihfirst ihothers =>
      obtain ⟨others, rfl, rfl⟩ := Outcome.map_eq_ok hok
      have hrest := fun token member => hclass token (hfirst.rest_suffix.subset member)
      rw [ihfirst (harises.expression hstop) hclass rfl, ihothers harises hrest rfl]
      simp

theorem atomsAre_of_parseWithin {levels : Nat} {strict : Bool} {tokens : List Token} {tree : Tree}
    (hclass : ∀ token ∈ tokens, token.WellClassed)
    (h : parseWithin levels strict tokens = .ok tree) :
    tree.AtomsAre fun cls => strict = true → cls.isAtomic = true := by
  obtain ⟨trees, rfl, hexpressions⟩ := expressions_of_parseWithin hclass h
  rw [Tree.atomsAre_branch_iff (by decide)]
  intro tree member
  rcases hexpressions tree member with derives | ⟨hlenient, rfl⟩
  · exact derives.atomsAre.mono fun cls hatomic _ => hatomic
  · exact atomsAre_stray.mono fun cls _ hstrict => absurd (hlenient.symm.trans hstrict) (by decide)

/-- The atoms of a tree are the words of its tokens. -/
theorem words_of_parseWithin {levels : Nat} {strict : Bool} {tokens : List Token} {tree : Tree}
    (hclass : ∀ token ∈ tokens, token.WellClassed)
    (h : parseWithin levels strict tokens = .ok tree) :
    tree.atoms.map said = (Token.words 0 tokens).map Token.content := by
  obtain ⟨trees, rfl, reading⟩ := parseWithin_ok_iff.mp h
  have harises : (Goal.expressions List.isEmpty).Arises 0 tokens := rfl
  rw [reading.words_eq harises hclass rfl, Tree.atoms_branch, if_neg (by decide)]
  simp [Token.words]

/-- Strict parsing takes no parenthesis for a word. -/
theorem words_of_strict {levels : Nat} {tokens : List Token} {tree : Tree}
    (hclass : ∀ token ∈ tokens, token.WellClassed)
    (h : parseWithin levels true tokens = .ok tree) :
    Token.words 0 tokens = tokens.filter (·.kind ≠ .lexical .literal) := by
  rw [← Token.filter_words 0 tokens, eq_comm, List.filter_eq_self]
  intro token member
  have hsaid : token.content ∈ tree.atoms.map said := by
    rw [words_of_parseWithin hclass h]
    exact List.mem_map_of_mem member
  obtain ⟨leaf, hleaf, heq⟩ := List.mem_map.mp hsaid
  have hatoms := atomsAre_of_parseWithin hclass h
  obtain ⟨cls, word, hatomic, rfl⟩ := hatoms.class_of_mem_atoms leaf hleaf
  have hkind : token.kind = .lexical cls := (congrArg Prod.fst heq).symm
  rw [hkind, decide_eq_true_eq]
  rintro hliteral
  cases hliteral
  cases hatomic rfl

/-- Parsing loses no token, takes none twice and keeps their order, in either mode and whatever the
tokens are: they are the leaves of the tree. Of the tokens of a text those that are no parentheses
are the atoms of the tree, in strict mode they alone, in lenient mode together with the closing
parentheses that no earlier parenthesis opened a list for; each atom node holds just one leaf. -/
theorem parseWithin_leaves (levels : Nat) (strict : Bool) :
    (∀ tokens tree, parseWithin levels strict tokens = .ok tree →
      tree.leaves.map (fun leaf => (leaf.symbol, leaf.text)) =
        tokens.map fun token => (token.kind, token.text)) ∧
    ∀ text tokens tree, tokenize text = .ok tokens → parseWithin levels strict tokens = .ok tree →
      tree.atoms.map (fun leaf => (leaf.symbol, leaf.text)) =
        (if strict = true then tokens.filter (·.kind ≠ .lexical .literal)
          else Token.words 0 tokens).map (fun token => (token.kind, token.text)) ∧
      ∀ node ∈ tree.nodes, node.symbol = .grammar .atom →
        ∃ cls word, node.children = [.leaf cls word] := by
  constructor
  · intro tokens tree h
    exact contents_of_parseWithin h
  intro text tokens tree htokens h
  have hclass := wellClassed_of_tokenize htokens
  constructor
  · split
    · rename_i hstrict
      rw [hstrict] at h
      rw [← words_of_strict hclass h]
      exact words_of_parseWithin hclass h
    · exact words_of_parseWithin hclass h
  · intro node member hsymbol
    obtain ⟨cls, word, -, rfl⟩ := atomsAre_of_parseWithin hclass h node member hsymbol
    exact ⟨cls, word, rfl⟩

/-- The same parenthesis is an atom where it closes nothing and none where it closes a list. -/
theorem parseWithin_leaves_unopened :
    let tokens : List Token := [⟨.lexical .literal, ")", 0⟩, ⟨.lexical .literal, "(", 1⟩,
      ⟨.lexical .id, "a", 2⟩, ⟨.lexical .literal, ")", 3⟩]
    ∃ tree, tokenize ")(a)" = .ok tokens ∧ parseWithin 1 false tokens = .ok tree ∧
      tree.leaves.length = 4 ∧
      tree.atoms.map (fun leaf => (leaf.symbol, leaf.text)) =
        [(.lexical .literal, ")"), (.lexical .id, "a")] := by
  intro tokens
  have lexing : Lexing 0 ")(a)".toList tokens none :=
    @Lexing.cut _ _ ⟨.literal, [')']⟩ _ _ rfl <|
    @Lexing.cut _ _ ⟨.literal, ['(']⟩ _ _ rfl <|
    @Lexing.cut _ _ ⟨.id, ['a']⟩ _ _ rfl <|
    @Lexing.cut _ _ ⟨.literal, [')']⟩ _ _ rfl .finished
  have htokens : tokenize ")(a)" = .ok tokens := tokenize_eq_ok_iff.mpr lexing
  have items {stop : Int} : Reading ⟨false, stop⟩ 0 (.expressions closes) (tokens.drop 2)
      (.ok [atomTree (.leaf .id "a")] (tokens.drop 3)) :=
    .more rfl (.atom (by decide) rfl rfl) (.done rfl)
  have reading {stop : Int} : Reading ⟨false, stop⟩ 1 (.expressions List.isEmpty) tokens
      (.ok [strayTree, _] []) :=
    .more rfl (.atom (by decide) rfl rfl) (.more rfl (.list rfl rfl items rfl rfl) (.done rfl))
  have hparse : parseWithin 1 false tokens = .ok _ := parseWithin_ok_iff.mpr ⟨_, rfl, reading⟩
  obtain ⟨hleaves, hatoms⟩ := parseWithin_leaves 1 false
  refine ⟨_, htokens, hparse, ?_, (hatoms _ _ _ htokens hparse).1⟩
  have hlength := congrArg List.length (hleaves _ _ hparse)
  rw [List.length_map, List.length_map] at hlength
  exact hlength

end Grammar

end Sexpr
