import Sexpr.Proofs.Grammar.Atoms
import Sexpr.Proofs.Grammar.Language
import Sexpr.Proofs.Grammar.Splicing

/-!
What lenient mode adds. A closing parenthesis is an atom there where it closes nothing, which is
only outside of all lists; without those parentheses the tokens are a program of strict mode.
-/

namespace Sexpr

namespace Tree

/-- The literals that stand below an atom. -/
def strays (tree : Tree) : List Tree :=
  (tree.nodes.filter (·.symbol = .grammar .atom)).flatMap fun node =>
    node.leaves.filter (·.symbol = .lexical .literal)

/-- Each tree with its share of the tokens, as many as it has leaves. -/
def shares : List Tree → List Token → List (List Token × Tree)
  | [], _ => []
  | tree :: trees, tokens =>
      (tokens.take tree.leaves.length, tree) :: shares trees (tokens.drop tree.leaves.length)

theorem map_shares (trees : List Tree) (tokens : List Token) :
    (shares trees tokens).map (·.2) = trees := by
  induction trees generalizing tokens with
  | nil => rfl
  | cons tree trees ih => simp [shares, ih]

theorem AtomsAre.strays_eq_nil {tree : Tree} (h : tree.AtomsAre (·.isAtomic = true)) :
    tree.strays = [] := by
  rw [strays, List.flatMap_eq_nil_iff]
  intro node member
  obtain ⟨hnode, hsymbol⟩ := List.mem_filter.mp member
  obtain ⟨cls, word, hatomic, rfl⟩ := h node hnode (of_decide_eq_true hsymbol)
  have hliteral : cls ≠ .literal := by
    rintro rfl
    cases hatomic
  simp [symbol, hliteral]

end Tree

namespace Grammar

theorem strays_strayTree : strayTree.strays = [.leaf .literal ")"] := by
  simp [strayTree, atomTree, Tree.strays, Tree.symbol]

/-- Where the tokens spell the trees, each tree is spelled by its share of them. -/
theorem Spells.shares {trees : List Tree} {tokens : List Token}
    (h : Spells tokens (trees.flatMap Tree.contents)) :
    (Tree.shares trees tokens).flatMap (·.1) = tokens ∧
      ∀ share ∈ Tree.shares trees tokens, Spells share.1 share.2.contents := by
  induction trees generalizing tokens with
  | nil =>
      cases h.eq_nil
      exact ⟨rfl, fun share member => nomatch member⟩
  | cons tree trees ih =>
      rw [List.flatMap_cons] at h
      obtain ⟨front, back, rfl, hfront, hback⟩ := h.split
      have hlength : tree.leaves.length = front.length := by
        have hlengths := congrArg List.length hfront.1
        rw [List.length_map, Tree.contents, List.length_map] at hlengths
        exact hlengths.symm
      obtain ⟨hjoined, hshares⟩ := ih hback
      rw [Tree.shares, hlength, List.take_left, List.drop_left, List.flatMap_cons, hjoined,
        List.forall_mem_cons]
      exact ⟨rfl, hfront, hshares⟩

/-- The shares of some trees spell those trees, one behind the other. -/
theorem spells_of_shares {shares : List (List Token × Tree)}
    (h : ∀ share ∈ shares, Spells share.1 share.2.contents) :
    Spells (shares.flatMap (·.1)) ((shares.map (·.2)).flatMap Tree.contents) := by
  induction shares with
  | nil => exact ⟨rfl, fun token member => nomatch member⟩
  | cons share shares ih =>
      obtain ⟨hshare, hshares⟩ := List.forall_mem_cons.mp h
      rw [List.flatMap_cons, List.map_cons, List.flatMap_cons]
      exact hshare.append (ih hshares)

theorem Reading.lenient {levels : Nat} {stop : Int} {tokens : List Token} {trees : List Tree}
    (reading : Reading ⟨true, stop⟩ levels (.expressions List.isEmpty) tokens (.ok trees [])) :
    Reading ⟨false, stop⟩ levels (.expressions List.isEmpty) tokens (.ok trees []) := by
  have hadmits (token : Token) (_ : admits ⟨true, stop⟩ token = true) :
      admits ⟨false, stop⟩ token = true := rfl
  obtain ⟨taken, htokens, htaken⟩ := reading.elsewhere hadmits rfl
  rw [htokens]
  exact htaken [] endsAt_end

/-- The derivations among some expressions are a program, and the tokens of the others can be left
out. -/
theorem parseWithin_without_strays {levels : Nat} {trees : List Tree} {tokens : List Token}
    (hspells : Spells tokens (trees.flatMap Tree.contents))
    (hlevels : ∀ tree ∈ trees, tree.nesting ≤ levels)
    (hderives : ∀ tree ∈ trees, tree.strays.isEmpty = true → Derives .sexpr tree) :
    parseWithin levels true
        (((Tree.shares trees tokens).filter (·.2.strays.isEmpty)).flatMap (·.1)) =
      .ok (.branch .program (trees.filter (·.strays.isEmpty))) := by
  have hkept : trees.filter (·.strays.isEmpty) =
      ((Tree.shares trees tokens).filter (·.2.strays.isEmpty)).map (·.2) := by
    rw [← Tree.map_shares trees tokens, List.filter_map, Tree.map_shares]
    rfl
  have hprogram : Derives .program (.branch .program (trees.filter (·.strays.isEmpty))) := by
    refine .program fun tree member => ?_
    obtain ⟨htree, hnone⟩ := List.mem_filter.mp member
    exact hderives tree htree hnone
  have hnesting : (Tree.branch .program (trees.filter (·.strays.isEmpty))).nesting ≤ levels := by
    rw [Tree.nesting, if_neg (by decide), Nat.zero_add, Tree.nestingAll_le_iff]
    intro tree member
    exact hlevels tree (List.mem_filter.mp member).1
  refine hprogram.parseWithin_ok hnesting ?_ true
  rw [Tree.contents_branch, hkept]
  apply spells_of_shares
  intro share member
  exact hspells.shares.2 share (List.mem_filter.mp member).1

/-- What strict mode makes of tokens, lenient mode makes of them too. Conversely, in the lenient
tree of a text a literal is an atom only where it is a closing parenthesis, and its atom is then an
expression of its own outside of all lists. Strict mode parses the tokens without those of these
expressions, to the tree without these expressions. -/
theorem parseWithin_lenient (levels : Nat) :
    (∀ tokens tree, parseWithin levels true tokens = .ok tree →
      parseWithin levels false tokens = .ok tree) ∧
    ∀ text tokens tree, tokenize text = .ok tokens → parseWithin levels false tokens = .ok tree →
      let shares := Tree.shares tree.children tokens
      let kept := shares.filter (·.2.strays.isEmpty)
      tree.symbol = .grammar .program ∧
      (∀ expression ∈ tree.children, ∀ leaf ∈ expression.strays,
        leaf.text = ")" ∧ expression = .branch .sexpr [.branch .atom [leaf]]) ∧
      shares.flatMap (·.1) = tokens ∧
      (∀ share ∈ shares, share.1.map Token.content = share.2.contents) ∧
      parseWithin levels true (kept.flatMap (·.1)) =
        .ok (.branch .program (tree.children.filter (·.strays.isEmpty))) := by
  constructor
  · intro tokens tree h
    obtain ⟨trees, rfl, reading⟩ := parseWithin_ok_iff.mp h
    exact parseWithin_ok_iff.mpr ⟨trees, rfl, reading.lenient⟩
  intro text tokens tree htokens h shares kept
  have hclass := wellClassed_of_tokenize htokens
  have hcontents := contents_of_parseWithin h
  have hnesting := nesting_le_of_parseWithin h
  obtain ⟨trees, rfl, hexpressions⟩ := expressions_of_parseWithin hclass h
  have hspells : Spells tokens (trees.flatMap Tree.contents) := by
    rw [Tree.contents_branch] at hcontents
    exact ⟨hcontents.symm, hclass⟩
  refine ⟨rfl, ?_, hspells.shares.1, fun share member => (hspells.shares.2 share member).1, ?_⟩
  · intro expression member leaf hleaf
    rcases hexpressions expression member with hderives | ⟨-, rfl⟩
    · rw [hderives.atomsAre.strays_eq_nil] at hleaf
      cases hleaf
    · rw [strays_strayTree, List.mem_singleton] at hleaf
      rw [hleaf]
      exact ⟨rfl, rfl⟩
  · apply parseWithin_without_strays hspells
    · intro tree member
      exact Nat.le_trans (Tree.nesting_le_branch member .program) hnesting
    · intro tree member hnone
      rcases hexpressions tree member with hderives | ⟨-, rfl⟩
      · exact hderives
      · simp [strays_strayTree] at hnone

/-- A stray parenthesis between a number and a list. -/
theorem parseWithin_lenient_unopened :
    let tokens : List Token := [⟨.lexical .int, "5", 0⟩, ⟨.lexical .literal, ")", 1⟩,
      ⟨.lexical .literal, "(", 3⟩, ⟨.lexical .literal, ")", 4⟩]
    let list : Tree := .branch .sexpr [.branch .list [.leaf .literal "(", .leaf .literal ")"]]
    let kept : Tree := .branch .program [atomTree (.leaf .int "5"), list]
    tokenize "5) ()" = .ok tokens ∧
      parseWithin 1 false tokens =
        .ok (.branch .program [atomTree (.leaf .int "5"), strayTree, list]) ∧
      parseWithin 1 true (tokens.eraseIdx 1) = .ok kept ∧
      parseWithin 1 false (tokens.eraseIdx 1) = .ok kept := by
  intro tokens list kept
  have lexing : Lexing 0 "5) ()".toList tokens none :=
    @Lexing.cut _ _ ⟨.int, ['5']⟩ _ _ rfl <|
    @Lexing.cut _ _ ⟨.literal, [')']⟩ _ _ rfl <|
    .blank rfl <|
    @Lexing.cut _ _ ⟨.literal, ['(']⟩ _ _ rfl <|
    @Lexing.cut _ _ ⟨.literal, [')']⟩ _ _ rfl .finished
  have htokens : tokenize "5) ()" = .ok tokens := tokenize_eq_ok_iff.mpr lexing
  have reading {stop : Int} : Reading ⟨false, stop⟩ 1 (.expressions List.isEmpty) tokens
      (.ok [atomTree (.leaf .int "5"), strayTree, list] []) :=
    .more rfl (.atom (by decide) rfl rfl) <| .more rfl (.atom (by decide) rfl rfl) <|
    .more rfl (.list rfl rfl (.done rfl) rfl rfl) (.done rfl)
  have hparse := parseWithin_ok_iff.mpr ⟨_, rfl, reading⟩
  obtain ⟨hextends, hlenient⟩ := parseWithin_lenient 1
  obtain ⟨-, -, -, -, hstrict⟩ := hlenient _ _ _ htokens hparse
  have hkept : parseWithin 1 true (tokens.eraseIdx 1) = .ok kept := by
    simpa [strayTree, atomTree, list, tokens, kept, Tree.shares, Tree.strays, Tree.children,
      Tree.symbol] using hstrict
  exact ⟨htokens, hparse, hkept, hextends _ _ hkept⟩

end Grammar

end Sexpr
