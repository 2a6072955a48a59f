import Sexpr.Proofs.Grammar.Derivation

/-!
The language of the procedures. Every derivation that nests within the room for lists is found, and
the tokens that spell it leave no other one to find; with soundness it follows that strict parsing
decides the grammar.
-/

namespace Sexpr

namespace Grammar

/-- The tokens that say this, each as a text yields it. -/
def Spells (tokens : List Token) (contents : List (Symbol × String)) : Prop :=
  tokens.map Token.content = contents ∧ ∀ token ∈ tokens, token.WellClassed

namespace Spells

variable {tokens : List Token}

theorem split {front back : List (Symbol × String)} (h : Spells tokens (front ++ back)) :
    ∃ start stop, tokens = start ++ stop ∧ Spells start front ∧ Spells stop back := by
  obtain ⟨start, stop, rfl, hstart, hstop⟩ := List.map_eq_append_iff.mp h.1
  refine ⟨start, stop, rfl, ⟨hstart, ?_⟩, ⟨hstop, ?_⟩⟩
  · exact fun token member => h.2 token (List.mem_append_left stop member)
  · exact fun token member => h.2 token (List.mem_append_right start member)

theorem append {start stop : List Token} {front back : List (Symbol × String)}
    (hstart : Spells start front) (hstop : Spells stop back) :
    Spells (start ++ stop) (front ++ back) := by
  refine ⟨by rw [List.map_append, hstart.1, hstop.1], fun token member => ?_⟩
  rcases List.mem_append.mp member with hfront | hback
  · exact hstart.2 token hfront
  · exact hstop.2 token hback

theorem head {kind : Symbol} {word : String} {back : List (Symbol × String)}
    (h : Spells tokens ((kind, word) :: back)) :
    ∃ token rest, tokens = token :: rest ∧ token.kind = kind ∧ token.text = word ∧
      token.WellClassed ∧ Spells rest back := by
  obtain ⟨token, rest, rfl, htoken, hrest⟩ := List.map_eq_cons_iff.mp h.1
  cases htoken
  exact ⟨token, rest, rfl, rfl, rfl, h.2 token List.mem_cons_self, hrest,
    fun other member => h.2 other (List.mem_cons_of_mem token member)⟩

theorem eq_nil (h : Spells tokens []) : tokens = [] :=
  List.map_eq_nil_iff.mp h.1

/-- A parenthesized part is spelled by tokens between two parentheses. -/
theorem parenthesized {contents : List (Symbol × String)}
    (h : Spells tokens
      ((.lexical .literal, "(") :: (contents ++ [(.lexical .literal, ")")]))) :
    ∃ opening inner closing, tokens = opening :: (inner ++ [closing]) ∧
      opening.kind = .lexical .literal ∧ opening.text = "(" ∧
      closing.kind = .lexical .literal ∧ closing.text = ")" ∧ Spells inner contents := by
  obtain ⟨opening, others, rfl, hopening, hopen, -, hothers⟩ := h.head
  obtain ⟨inner, stop, rfl, hinner, hstop⟩ := hothers.split
  obtain ⟨closing, others, rfl, hclosing, hclose, -, hothers⟩ := hstop.head
  cases hothers.eq_nil
  exact ⟨opening, inner, closing, rfl, hopening, hopen, hclosing, hclose, hinner⟩

end Spells

/-- What the procedures make of tokens that spell a derivation of a rule, when other tokens follow.
Sequences are ended by what closes their list, and only the end of the tokens ends a program. -/
def IsRead (mode : Mode) (levels : Nat) (tokens rest : List Token) : Rule → Tree → Prop
  | .sexpr, tree => closes (tokens ++ rest) = false ∧
      Reading mode levels .expression (tokens ++ rest) (.ok [tree] rest)
  | .atom, tree | .list, tree => closes (tokens ++ rest) = false ∧
      Reading mode levels .expression (tokens ++ rest) (.ok [.branch .sexpr [tree]] rest)
  | .seq, tree => closes rest = true → ∃ first others, tree = chain first others ∧
      Reading mode levels (.expressions closes) (tokens ++ rest) (.ok (first :: others) rest)
  | .program, tree => rest = [] → ∃ trees, tree = .branch .program trees ∧
      Reading mode levels (.expressions List.isEmpty) tokens (.ok trees [])

theorem closes_cons_eq_false {token : Token} (h : token.text ≠ ")") (rest : List Token) :
    closes (token :: rest) = false := by
  simpa [closes, nextIs] using h

theorem closes_cons_eq_true {token : Token} (h : token.text = ")") (rest : List Token) :
    closes (token :: rest) = true := by
  simpa [closes, nextIs] using h

/-- A list is read when what stands between its parentheses is. -/
private theorem reading_parenthesized {mode : Mode} {levels : Nat} {opening closing : Token}
    {inner rest : List Token} {items : List Tree} (hopening : opening.kind = .lexical .literal)
    (hopen : opening.text = "(") (hclosing : closing.kind = .lexical .literal)
    (hclose : closing.text = ")")
    (hitems : Reading mode levels (.expressions closes) (inner ++ closing :: rest)
      (.ok items (closing :: rest))) :
    Reading mode (levels + 1) .expression (opening :: (inner ++ [closing]) ++ rest)
      (.ok [.branch .sexpr [listTree (.leaf .literal "(") items (.leaf .literal ")")]] rest) := by
  have hlist := Reading.list hopen (Tree.ofToken_of_lexical hopening) hitems hclose
    (Tree.ofToken_of_lexical hclosing)
  rw [hopen, hclose] at hlist
  rw [List.cons_append, List.append_assoc]
  exact hlist

/-- Expressions one behind the other are read up to the end of the tokens. -/
private theorem reading_expressions {mode : Mode} {levels : Nat} {trees : List Tree}
    (h : ∀ tree ∈ trees, ∀ tokens rest, Spells tokens tree.contents →
      IsRead mode levels tokens rest .sexpr tree)
    {tokens : List Token} (hspells : Spells tokens (trees.flatMap Tree.contents)) :
    Reading mode levels (.expressions List.isEmpty) tokens (.ok trees []) := by
  induction trees generalizing tokens with
  | nil =>
      cases hspells.eq_nil
      exact .done rfl
  | cons tree trees ih =>
      obtain ⟨start, stop, rfl, hstart, hstop⟩ := hspells.split
      obtain ⟨hopen, hfirst⟩ := h tree List.mem_cons_self start stop hstart
      have hothers := ih (fun other member => h other (List.mem_cons_of_mem tree member)) hstop
      have hmore : (start ++ stop).isEmpty = false := by
        rw [closes, Bool.or_eq_false_iff] at hopen
        exact hopen.1
      exact .more hmore hfirst hothers

/-- Every derivation is found, in either mode, if its lists nest no deeper than there is room. -/
theorem Derives.isRead {rule : Rule} {tree : Tree} (derives : Derives rule tree) (mode : Mode)
    {levels : Nat} (hlevels : tree.nesting ≤ levels) {tokens : List Token}
    (hspells : Spells tokens tree.contents) (rest : List Token) :
    IsRead mode levels tokens rest rule tree := by
  -- What follows stays open: a sequence is followed by the parenthesis of its list, and the first
  -- expression of a sequence by the others.
  induction derives generalizing levels tokens rest with
  | @atom cls word hkind =>
      rw [Tree.contents_single, Tree.contents_leaf] at hspells
      obtain ⟨token, others, rfl, hcls, rfl, hclass, hothers⟩ := hspells.head
      cases hothers.eq_nil
      obtain ⟨hopen, hclose⟩ := hclass.text_of_atomic hcls hkind
      have hadmits : admits mode token = true := by simp [admits, hcls, Symbol.isAtomic, hkind]
      exact ⟨closes_cons_eq_false hclose rest,
        .atom hopen hadmits (Tree.ofToken_of_lexical hcls)⟩
  | word hatom ih =>
      rw [Tree.nesting_single (by decide)] at hlevels
      rw [Tree.contents_single] at hspells
      exact ih hlevels hspells rest
  | nested hlist ih =>
      rw [Tree.nesting_single (by decide)] at hlevels
      rw [Tree.contents_single] at hspells
      exact ih hlevels hspells rest
  | empty =>
      cases levels with
      | zero => simp [Tree.nesting] at hlevels
      | succ levels =>
          rw [contents_empty] at hspells
          obtain ⟨opening, inner, closing, rfl, hopening, hopen, hclosing, hclose, hinner⟩ :=
            hspells.parenthesized
          cases hinner.eq_nil
          have hitems : Reading mode levels (.expressions closes) ([] ++ closing :: rest)
              (.ok [] (closing :: rest)) := .done (closes_cons_eq_true hclose rest)
          exact ⟨closes_cons_eq_false (by simp [hopen]) _,
            reading_parenthesized hopening hopen hclosing hclose hitems⟩
  | @filled seq hseq ih =>
      cases levels with
      | zero => simp [Tree.nesting] at hlevels
      | succ levels =>
          rw [contents_filled] at hspells
          obtain ⟨opening, inner, closing, rfl, hopening, hopen, hclosing, hclose, hinner⟩ :=
            hspells.parenthesized
          have hroom : seq.nesting < levels + 1 :=
            Nat.lt_of_lt_of_le (Tree.nesting_lt_list (by simp)) hlevels
          have hend := closes_cons_eq_true hclose rest
          obtain ⟨first, items, rfl, hitems⟩ :=
            ih (Nat.le_of_lt_succ hroom) hinner (closing :: rest) hend
          exact ⟨closes_cons_eq_false (by simp [hopen]) _,
            reading_parenthesized hopening hopen hclosing hclose hitems⟩
  | @last expression hexpression ih =>
      rw [Tree.nesting_single (by decide)] at hlevels
      rw [Tree.contents_single] at hspells
      intro hstop
      obtain ⟨hopen, hfirst⟩ := ih hlevels hspells rest
      exact ⟨expression, [], rfl, .more hopen hfirst (.done hstop)⟩
  | @more expression seq hexpression hseq ihexpression ihseq =>
      simp only [Tree.contents_branch, List.flatMap_cons, List.flatMap_nil, List.append_nil]
        at hspells
      obtain ⟨start, stop, rfl, hstart, hstop⟩ := hspells.split
      have hroom {part : Tree} (member : part ∈ [expression, seq]) : part.nesting ≤ levels :=
        Nat.le_trans (Tree.nesting_le_branch member .seq) hlevels
      intro hend
      obtain ⟨second, others, rfl, hothers⟩ := ihseq (hroom (by simp)) hstop rest hend
      obtain ⟨hopen, hfirst⟩ := ihexpression (hroom (by simp)) hstart (stop ++ rest)
      rw [List.append_assoc]
      exact ⟨expression, second :: others, (chain_cons _ _ _).symm, .more hopen hfirst hothers⟩
  | @program expressions hexpressions ih =>
      rintro rfl
      rw [Tree.contents_branch] at hspells
      refine ⟨expressions, rfl, reading_expressions ?_ hspells⟩
      intro tree member tokens rest hspells
      have hroom := Nat.le_trans (Tree.nesting_le_branch member .program) hlevels
      exact ih tree member hroom hspells rest

theorem le_nesting (opened : Nat) (tokens : List Token) : opened ≤ Token.nesting opened tokens := by
  cases tokens with
  | nil => exact Nat.le_refl opened
  | cons token rest => exact Nat.le_max_left _ _

/-- Tokens that spell expressions leave as many lists open as there were, and on the way open as
many more as the expressions nest. -/
private theorem nesting_expressions {trees : List Tree}
    (h : ∀ tree ∈ trees, ∀ tokens rest opened, Spells tokens tree.contents →
      Token.nesting opened (tokens ++ rest) =
        max (opened + tree.nesting) (Token.nesting opened rest))
    {tokens : List Token} (hspells : Spells tokens (trees.flatMap Tree.contents))
    (rest : List Token) (opened : Nat) :
    Token.nesting opened (tokens ++ rest) =
      max (opened + Tree.nestingAll trees) (Token.nesting opened rest) := by
  induction trees generalizing tokens with
  | nil =>
      cases hspells.eq_nil
      have := le_nesting opened rest
      simp only [List.nil_append, Tree.nestingAll]
      omega
  | cons tree trees ih =>
      obtain ⟨start, stop, rfl, hstart, hstop⟩ := hspells.split
      have hothers := ih (fun other member => h other (List.mem_cons_of_mem tree member)) hstop
      rw [List.append_assoc, h tree List.mem_cons_self start (stop ++ rest) opened hstart, hothers,
        Tree.nestingAll]
      omega

/-- Parentheses around tokens that leave no list open make the nesting one deeper. -/
private theorem nesting_parenthesized {opening closing : Token} (hopen : opening.text = "(")
    (hclose : closing.text = ")") {inner rest : List Token} {opened depth : Nat}
    (hinner : Token.nesting (opened + 1) (inner ++ closing :: rest) =
      max (opened + 1 + depth) (Token.nesting (opened + 1) (closing :: rest))) :
    Token.nesting opened (opening :: (inner ++ [closing]) ++ rest) =
      max (opened + (1 + depth)) (Token.nesting opened rest) := by
  have hopened : opening.openedAfter opened = opened + 1 := if_pos hopen
  have hclosed : closing.openedAfter (opened + 1) = opened := by
    simp [Token.openedAfter, hclose]
  have hrest := le_nesting opened rest
  rw [List.cons_append, List.append_assoc, Token.nesting, hopened]
  rw [List.singleton_append, hinner, Token.nesting, hclosed]
  omega

/-- The nesting of a derivation is the nesting of the tokens that spell it. -/
theorem Derives.nesting_eq {rule : Rule} {tree : Tree} (derives : Derives rule tree)
    {tokens : List Token} (hspells : Spells tokens tree.contents) (rest : List Token)
    (opened : Nat) :
    Token.nesting opened (tokens ++ rest) =
      max (opened + tree.nesting) (Token.nesting opened rest) := by
  induction derives generalizing tokens rest opened with
  | @atom cls word hkind =>
      rw [Tree.contents_single, Tree.contents_leaf] at hspells
      obtain ⟨token, others, rfl, hcls, -, hclass, hothers⟩ := hspells.head
      cases hothers.eq_nil
      obtain ⟨hopen, hclose⟩ := hclass.text_of_atomic hcls hkind
      have hopened : token.openedAfter opened = opened := by
        rw [Token.openedAfter, if_neg hopen, if_neg hclose]
      rw [Tree.nesting_single (by decide), List.singleton_append, Token.nesting, hopened]
      rfl
  | word hatom ih =>
      rw [Tree.contents_single] at hspells
      rw [Tree.nesting_single (by decide), ih hspells rest opened]
  | nested hlist ih =>
      rw [Tree.contents_single] at hspells
      rw [Tree.nesting_single (by decide), ih hspells rest opened]
  | empty =>
      rw [contents_empty] at hspells
      obtain ⟨opening, inner, closing, rfl, -, hopen, -, hclose, hinner⟩ :=
        hspells.parenthesized
      cases hinner.eq_nil
      have hitems := le_nesting (opened + 1) (closing :: rest)
      exact nesting_parenthesized hopen hclose (Nat.max_eq_right hitems).symm
  | @filled seq hseq ih =>
      rw [contents_filled] at hspells
      obtain ⟨opening, inner, closing, rfl, -, hopen, -, hclose, hinner⟩ := hspells.parenthesized
      have hitems := ih hinner (closing :: rest) (opened + 1)
      rw [nesting_parenthesized hopen hclose hitems]
      simp [Tree.nesting, Tree.nestingAll]
  | last hexpression ih =>
      rw [Tree.contents_single] at hspells
      rw [Tree.nesting_single (by decide), ih hspells rest opened]
  | @more expression seq hexpression hseq ihexpression ihseq =>
      simp only [Tree.contents_branch, List.flatMap_cons, List.flatMap_nil, List.append_nil]
        at hspells
      obtain ⟨start, stop, rfl, hstart, hstop⟩ := hspells.split
      rw [List.append_assoc, ihexpression hstart, ihseq hstop]
      simp only [Tree.nesting, Tree.nestingAll, reduceCtorEq, if_false]
      omega
  | @program expressions hexpressions ih =>
      rw [Tree.contents_branch] at hspells
      have h := nesting_expressions (fun tree member tokens rest opened hspells =>
        ih tree member hspells rest opened) hspells rest opened
      simpa [Tree.nesting] using h

theorem Derives.nesting_le {tree : Tree} (derives : Derives .program tree) {tokens : List Token}
    (hspells : Spells tokens tree.contents) : tree.nesting ≤ Token.nesting 0 tokens := by
  have h := derives.nesting_eq hspells [] 0
  rw [List.append_nil] at h
  omega

/-- Every program is parsed from the tokens that spell it, in either mode. -/
theorem Derives.parseWithin_ok {tree : Tree} (derives : Derives .program tree) {levels : Nat}
    (hlevels : tree.nesting ≤ levels) {tokens : List Token} (hspells : Spells tokens tree.contents)
    (strict : Bool) : parseWithin levels strict tokens = .ok tree := by
  obtain ⟨trees, rfl, reading⟩ :=
    derives.isRead ⟨strict, Token.endOf tokens⟩ hlevels hspells [] rfl
  exact parseWithin_ok_iff.mpr ⟨trees, rfl, reading⟩

/-- What strict parsing finds is a program. -/
theorem derives_of_parseWithin {levels : Nat} {tokens : List Token}
    (hclass : ∀ token ∈ tokens, token.WellClassed) {tree : Tree}
    (h : parseWithin levels true tokens = .ok tree) : Derives .program tree := by
  obtain ⟨trees, rfl, hexpressions⟩ := expressions_of_parseWithin hclass h
  refine .program fun tree member => ?_
  rcases hexpressions tree member with hderives | ⟨hlenient, -⟩
  · exact hderives
  · cases hlenient

/-- Strict parsing decides the grammar. A token list of a text that nests within the room for lists
is parsed to a tree just where the tree is a derivation of a program whose leaves are the tokens;
there is at most one such tree, and parsing fails just where there is none. -/
theorem parseWithin_iff_derives :
    (∀ text tokens, tokenize text = .ok tokens → ∀ token ∈ tokens, token.WellClassed) ∧
    ∀ (levels : Nat) (tokens : List Token), (∀ token ∈ tokens, token.WellClassed) →
      Token.nesting 0 tokens ≤ levels →
      (∀ tree, parseWithin levels true tokens = .ok tree ↔
        Derives .program tree ∧ tree.contents = tokens.map Token.content) ∧
      (∀ tree tree', Derives .program tree → Derives .program tree' →
        tree.contents = tokens.map Token.content → tree'.contents = tokens.map Token.content →
        tree = tree') ∧
      ((∃ cause, parseWithin levels true tokens = .error cause) ↔
        ¬∃ tree, Derives .program tree ∧ tree.contents = tokens.map Token.content) := by
  constructor
  · intro text tokens h token member
    exact ((tokenize_eq_ok_iff.mp h).isLexeme token member).wellClassed
  intro levels tokens hclass hnesting
  have hiff (tree : Tree) : parseWithin levels true tokens = .ok tree ↔
      Derives .program tree ∧ tree.contents = tokens.map Token.content := by
    constructor
    · intro h
      exact ⟨derives_of_parseWithin hclass h, contents_of_parseWithin h⟩
    · rintro ⟨derives, hcontents⟩
      have hspells : Spells tokens tree.contents := ⟨hcontents.symm, hclass⟩
      have hlevels := Nat.le_trans (derives.nesting_le hspells) hnesting
      exact derives.parseWithin_ok hlevels hspells true
  refine ⟨hiff, ?_, ?_⟩
  · intro tree tree' derives derives' hcontents hcontents'
    have h := (hiff tree).mpr ⟨derives, hcontents⟩
    have h' := (hiff tree').mpr ⟨derives', hcontents'⟩
    exact Except.ok.inj (h.symm.trans h')
  · simp only [← hiff]
    cases parseWithin levels true tokens <;> simp

/-- A list in a list, at just the limit that it needs. -/
theorem parseWithin_iff_derives_nested :
    let tokens : List Token := [⟨.lexical .literal, "(", 0⟩, ⟨.lexical .id, "f", 1⟩,
      ⟨.lexical .literal, "(", 3⟩, ⟨.lexical .literal, ")", 4⟩, ⟨.lexical .literal, ")", 5⟩]
    let empty : Tree := .branch .list [.leaf .literal "(", .leaf .literal ")"]
    let items : Tree :=
      .branch .seq [atomTree (.leaf .id "f"), .branch .seq [.branch .sexpr [empty]]]
    (∀ token ∈ tokens, token.WellClassed) ∧ Token.nesting 0 tokens ≤ 2 ∧
      parseWithin 2 true tokens = .ok (.branch .program
        [.branch .sexpr [.branch .list [.leaf .literal "(", items, .leaf .literal ")"]]]) := by
  intro tokens empty items
  have hclass : ∀ token ∈ tokens, token.WellClassed := by decide
  have hnesting : Token.nesting 0 tokens ≤ 2 := by decide
  have hitems : Derives .seq items := .more (.word (.atom rfl)) (.last (.nested .empty))
  have hexpressions : ∀ tree ∈ [Tree.branch .sexpr
      [.branch .list [.leaf .literal "(", items, .leaf .literal ")"]]], Derives .sexpr tree := by
    rw [List.forall_mem_singleton]
    exact .nested (.filled hitems)
  refine ⟨hclass, hnesting, ?_⟩
  apply ((parseWithin_iff_derives.2 2 tokens hclass hnesting).1 _).mpr
  refine ⟨.program hexpressions, ?_⟩
  simp [tokens, items, empty, atomTree, Token.content]

end Grammar

end Sexpr
