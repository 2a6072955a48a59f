import Sexpr.Proofs.Grammar.Reading
import Sexpr.Proofs.Token.Lexing
import Sexpr.Proofs.Tree.Walk

/-!
Derivations of the grammar, as trees that obey its rules. Nothing here speaks of how a derivation is
found; the rules only say which children a node may have. Two measures of nesting belong to it, one
of a tree and one of a token list, and they agree where the tree derives the list.
-/

namespace Sexpr

/-- How many lists are open behind a token when so many were open before it. A closing parenthesis
that closes nothing changes nothing. -/
def Token.openedAfter (opened : Nat) (token : Token) : Nat :=
  if token.text = "(" then opened + 1
  else if token.text = ")" then opened - 1
  else opened

def Token.nesting (opened : Nat) : List Token → Nat
  | [] => opened
  | token :: rest => max opened (nesting (token.openedAfter opened) rest)

namespace Token.WellClassed

variable {token : Token} {cls : TokenClass}

theorem kind_of_parenthesis (h : token.WellClassed) (htext : token.text = "(" ∨ token.text = ")") :
    token.kind = .lexical .literal :=
  h.1.mpr htext

theorem text_of_atomic (h : token.WellClassed) (hkind : token.kind = .lexical cls)
    (hatomic : cls.isAtomic = true) : token.text ≠ "(" ∧ token.text ≠ ")" := by
  have hliteral : token.kind ≠ .lexical .literal := by
    rintro heq
    rw [hkind] at heq
    cases heq
    cases hatomic
  have hnone := mt h.1.mpr hliteral
  exact not_or.mp hnone

end Token.WellClassed

namespace Tree

theorem ofToken_of_lexical {token : Token} {cls : TokenClass} (h : token.kind = .lexical cls) :
    ofToken token = .ok (.leaf cls token.text) := by
  rw [ofToken, h, makeLeaf]

theorem ofToken_eq_ok {token : Token} {leaf : Tree} (h : ofToken token = .ok leaf) :
    ∃ cls, token.kind = .lexical cls ∧ leaf = .leaf cls token.text := by
  cases hkind : token.kind with
  | lexical cls =>
      rw [ofToken_of_lexical hkind] at h
      cases h
      exact ⟨cls, rfl, rfl⟩
  | grammar rule =>
      rw [ofToken, hkind, makeLeaf] at h
      cases h

mutual
def nesting : Tree → Nat
  | .leaf _ _ => 0
  | .branch rule children => (if rule = .list then 1 else 0) + nestingAll children

def nestingAll : List Tree → Nat
  | [] => 0
  | tree :: trees => max (nesting tree) (nestingAll trees)
end

theorem nestingAll_le_iff {trees : List Tree} {levels : Nat} :
    nestingAll trees ≤ levels ↔ ∀ tree ∈ trees, tree.nesting ≤ levels := by
  induction trees with
  | nil => simp [nestingAll]
  | cons tree trees ih => rw [nestingAll, Nat.max_le, ih, List.forall_mem_cons]

theorem nesting_le_branch {tree : Tree} {trees : List Tree} (member : tree ∈ trees) (rule : Rule) :
    tree.nesting ≤ (branch rule trees).nesting := by
  have hall := nestingAll_le_iff.mp (Nat.le_refl (nestingAll trees)) tree member
  rw [nesting]
  omega

/-- Only lists nest. -/
theorem nesting_single {rule : Rule} (hrule : rule ≠ .list) (tree : Tree) :
    (branch rule [tree]).nesting = tree.nesting := by
  rw [nesting, nestingAll, nestingAll, if_neg hrule]
  omega

theorem nesting_lt_list {tree : Tree} {trees : List Tree} (member : tree ∈ trees) :
    tree.nesting < (branch .list trees).nesting := by
  have hall := nestingAll_le_iff.mp (Nat.le_refl (nestingAll trees)) tree member
  rw [nesting, if_pos rfl]
  omega

end Tree

namespace Grammar

/-- The trees that a rule derives. -/
inductive Derives : Rule → Tree → Prop
  | atom {cls word} (hkind : cls.isAtomic = true) :
    Derives .atom (.branch .atom [.leaf cls word])
  | word {atom} (hatom : Derives .atom atom) : Derives .sexpr (.branch .sexpr [atom])
  | nested {list} (hlist : Derives .list list) : Derives .sexpr (.branch .sexpr [list])
  | empty : Derives .list (.branch .list [.leaf .literal "(", .leaf .literal ")"])
  | filled {seq} (hseq : Derives .seq seq) :
    Derives .list (.branch .list [.leaf .literal "(", seq, .leaf .literal ")"])
  | last {expression} (hexpression : Derives .sexpr expression) :
    Derives .seq (.branch .seq [expression])
  | more {expression seq} (hexpression : Derives .sexpr expression) (hseq : Derives .seq seq) :
    Derives .seq (.branch .seq [expression, seq])
  | program {expressions} (hexpressions : ∀ tree ∈ expressions, Derives .sexpr tree) :
    Derives .program (.branch .program expressions)

theorem contents_empty :
    (Tree.branch .list [.leaf .literal "(", .leaf .literal ")"]).contents =
      (.lexical .literal, "(") :: ([] ++ [(.lexical .literal, ")")]) := by
  simp

theorem contents_filled (seq : Tree) :
    (Tree.branch .list [.leaf .literal "(", seq, .leaf .literal ")"]).contents =
      (.lexical .literal, "(") :: (seq.contents ++ [(.lexical .literal, ")")]) := by
  simp

@[simp] theorem contents_chain (first : Tree) (others : List Tree) :
    (chain first others).contents = (first :: others).flatMap Tree.contents := by
  induction others generalizing first with
  | nil => simp
  | cons second others ih => simp [ih]

@[simp] theorem contents_listTree (opening closing : Tree) (items : List Tree) :
    (listTree opening items closing).contents =
      opening.contents ++ (items.flatMap Tree.contents ++ closing.contents) := by
  cases items <;> simp [listTree, sequence]

theorem nesting_chain (first : Tree) (others : List Tree) :
    (chain first others).nesting = Tree.nestingAll (first :: others) := by
  induction others generalizing first with
  | nil => simp [Tree.nesting]
  | cons second others ih => simp [Tree.nesting, Tree.nestingAll, ih]

theorem nesting_listTree (items : List Tree) (cls cls' : TokenClass) (word word' : String) :
    (listTree (.leaf cls word) items (.leaf cls' word')).nesting = Tree.nestingAll items + 1 := by
  rw [Nat.add_comm]
  cases items <;> simp [listTree, sequence, nesting_chain, Tree.nesting, Tree.nestingAll]

/-- What is read nests no deeper than there was room. -/
theorem Reading.nesting_le {mode : Mode} {levels : Nat} {goal : Goal} {tokens : List Token}
    {outcome : Outcome (List Tree)} (reading : Reading mode levels goal tokens outcome)
    {trees : List Tree} {rest : List Token} (hok : outcome = .ok trees rest) :
    ∀ tree ∈ trees, tree.nesting ≤ levels := by
  induction reading generalizing trees rest with
  | noAtom | notAtom | noLeaf | tooDeep | noOpening | inside | unclosed | noClosing | failed =>
      cases hok
  | atom _ _ hleaf =>
      cases hok
      obtain ⟨cls, -, rfl⟩ := Tree.ofToken_eq_ok hleaf
      simp [atomTree, Tree.nesting, Tree.nestingAll]
  | list _ hleaf _ _ hclosing ih =>
      cases hok
      obtain ⟨_, -, rfl⟩ := Tree.ofToken_eq_ok hleaf
      obtain ⟨_, -, rfl⟩ := Tree.ofToken_eq_ok hclosing
      have hitems := Tree.nestingAll_le_iff.mpr (ih rfl)
      rw [List.forall_mem_singleton, Tree.nesting_single (by decide), nesting_listTree]
      exact Nat.succ_le_succ hitems
  | done =>
      cases hok
      intro tree member
      cases member
  | more _ _ _ ihfirst ihothers =>
      obtain ⟨others, rfl, rfl⟩ := Outcome.map_eq_ok hok
      exact List.forall_mem_cons.mpr ⟨ihfirst rfl _ (List.mem_singleton_self _), ihothers rfl⟩

theorem nesting_le_of_parseWithin {levels : Nat} {strict : Bool} {tokens : List Token}
    {tree : Tree} (h : parseWithin levels strict tokens = .ok tree) : tree.nesting ≤ levels := by
  obtain ⟨trees, rfl, reading⟩ := parseWithin_ok_iff.mp h
  rw [Tree.nesting, if_neg (by decide), Nat.zero_add, Tree.nestingAll_le_iff]
  exact reading.nesting_le rfl

/-- Whatever the kinds of the tokens, the leaves of what is read are the tokens that were taken. -/
theorem Reading.contents_eq {mode : Mode} {levels : Nat} {goal : Goal} {tokens : List Token}
    {outcome : Outcome (List Tree)} (reading : Reading mode levels goal tokens outcome)
    {trees : List Tree} {rest : List Token} (hok : outcome = .ok trees rest) :
    tokens.map Token.content = trees.flatMap Tree.contents ++ rest.map Token.content := by
  induction reading generalizing trees rest with
  | noAtom | notAtom | noLeaf | tooDeep | noOpening | inside | unclosed | noClosing | failed =>
      cases hok
  | atom _ _ hleaf =>
      cases hok
      simp [atomTree, Tree.contents_of_ofToken hleaf]
  | list _ hleaf _ _ hclosing ih =>
      cases hok
      simp [ih rfl, Tree.contents_of_ofToken hleaf, Tree.contents_of_ofToken hclosing]
  | done =>
      cases hok
      rfl
  | more _ _ _ ihfirst ihothers =>
      obtain ⟨others, rfl, rfl⟩ := Outcome.map_eq_ok hok
      rw [ihfirst rfl, ihothers rfl]
      simp

theorem contents_of_parseWithin {levels : Nat} {strict : Bool} {tokens : List Token} {tree : Tree}
    (h : parseWithin levels strict tokens = .ok tree) :
    tree.contents = tokens.map Token.content := by
  obtain ⟨trees, rfl, reading⟩ := parseWithin_ok_iff.mp h
  rw [Tree.contents_branch, reading.contents_eq rfl, List.map_nil, List.append_nil]

theorem derives_chain {first : Tree} {others : List Tree}
    (h : ∀ tree ∈ first :: others, Derives .sexpr tree) : Derives .seq (chain first others) := by
  induction others generalizing first with
  | nil => exact .last (h first (List.mem_singleton_self first))
  | cons second others ih =>
      rw [chain_cons]
      exact .more (h first List.mem_cons_self)
        (ih fun tree member => h tree (List.mem_cons_of_mem first member))

theorem derives_listTree {items : List Tree} (h : ∀ tree ∈ items, Derives .sexpr tree) :
    Derives .list (listTree (.leaf .literal "(") items (.leaf .literal ")")) := by
  cases items with
  | nil => exact .empty
  | cons first others => exact .filled (derives_chain h)

def strayTree : Tree :=
  atomTree (.leaf .literal ")")

/-- Every expression that is read is a derivation, or a stray parenthesis outside of all lists. The
classes of the tokens matter only for parentheses, which the procedures know by their words. -/
theorem Reading.derives_or_stray {mode : Mode} {levels : Nat} {goal : Goal} {tokens : List Token}
    {outcome : Outcome (List Tree)} (reading : Reading mode levels goal tokens outcome)
    {opened : Nat} (harises : goal.Arises opened tokens)
    (hclass : ∀ token ∈ tokens, token.WellClassed) {trees : List Tree} {rest : List Token}
    (hok : outcome = .ok trees rest) :
    ∀ tree ∈ trees,
      Derives .sexpr tree ∨ (mode.strict = false ∧ opened = 0 ∧ tree = strayTree) := by
  induction reading generalizing opened trees rest with
  | noAtom | notAtom | noLeaf | tooDeep | noOpening | inside | unclosed | noClosing | failed =>
      cases hok
  | @atom levels token rest leaf hword hkind hleaf =>
      cases hok
      rw [List.forall_mem_singleton]
      obtain ⟨cls, hcls, rfl⟩ := Tree.ofToken_eq_ok hleaf
      have hown := hclass token List.mem_cons_self
      by_cases hliteral : token.kind = .lexical .literal
      · have hclose := (hown.1.mp hliteral).resolve_left hword
        have hlenient : mode.strict = false := by
          simpa [admits, hliteral, Symbol.isAtomic, TokenClass.isAtomic] using hkind
        rw [hliteral] at hcls
        cases hcls
        exact .inr ⟨hlenient, harises.eq_zero_of_close hclose, by rw [hclose]; rfl⟩
      · have hatomic := hown.2 hliteral
        rw [hcls] at hatomic
        exact .inl (.word (.atom hatomic))
  | @list levels token rest opening items last after closing hword hleaf hitems hlast hclosing ih =>
      cases hok
      rw [List.forall_mem_singleton]
      have hrest := (List.forall_mem_cons.mp hclass).2
      have hopen := (hclass token List.mem_cons_self).kind_of_parenthesis (.inl hword)
      have hclose := (hrest last (hitems.rest_suffix.subset List.mem_cons_self)).kind_of_parenthesis
        (.inr hlast)
      rw [Tree.ofToken_of_lexical hopen, hword] at hleaf
      rw [Tree.ofToken_of_lexical hclose, hlast] at hclosing
      cases hleaf
      cases hclosing
      have harises' : (Goal.expressions closes).Arises (opened + 1) rest := rfl
      refine .inl (.nested (derives_listTree fun tree member => ?_))
      rcases ih harises' hrest rfl tree member with h | ⟨-, hzero, -⟩
      · exact h
      · cases hzero
  | done =>
      cases hok
      intro tree member
      cases member
  | more hstop hfirst _ ihfirst ihothers =>
      obtain ⟨others, rfl, rfl⟩ := Outcome.map_eq_ok hok
      have hrest := fun token member => hclass token (hfirst.rest_suffix.subset member)
      have hhead := ihfirst (harises.expression hstop) hclass rfl
      exact List.forall_mem_cons.mpr
        ⟨hhead _ (List.mem_singleton_self _), ihothers harises hrest rfl⟩

theorem expressions_of_parseWithin {levels : Nat} {strict : Bool} {tokens : List Token}
    (hclass : ∀ token ∈ tokens, token.WellClassed) {tree : Tree}
    (h : parseWithin levels strict tokens = .ok tree) :
    ∃ trees, tree = .branch .program trees ∧
      ∀ tree ∈ trees, Derives .sexpr tree ∨ (strict = false ∧ tree = strayTree) := by
  obtain ⟨trees, rfl, reading⟩ := parseWithin_ok_iff.mp h
  have harises : (Goal.expressions List.isEmpty).Arises 0 tokens := rfl
  refine ⟨trees, rfl, fun tree member => ?_⟩
  rcases reading.derives_or_stray harises hclass rfl tree member with derives | ⟨hmode, -, hstray⟩
  · exact .inl derives
  · exact .inr ⟨hmode, hstray⟩

end Grammar

end Sexpr
