import Sexpr.Proofs.Grammar.Rules

/-!
How the rules of the grammar run. They call one another through lists, sequences and expressions,
and each may fail in several places. `Reading` says once what can happen at a token: it relates a
token list to the outcome of reading it, with one constructor for each way to go on. `reading_iff`
states that this is what the procedures do, so that later facts about them are inductions over
readings.
-/

namespace Sexpr.Grammar

def atomTree (leaf : Tree) : Tree :=
  .branch .sexpr [.branch .atom [leaf]]

/-- What is read: one expression, or expressions until the tokens left satisfy `stop`. -/
inductive Goal where
  | expression
  | expressions (stop : List Token → Bool)

def Goal.parse (levels : Nat) : Goal → Parse (List Tree)
  | .expression => fun mode tokens => ((sexpr levels).run mode tokens).map ([·])
  | .expressions stop => (sexpr levels).untilStop stop

/-- What happens when a goal is read from the front of a token list, with room for so many levels
of lists. The first group of constructors is about atoms, the second about lists, and the last
three about repetition. -/
inductive Reading (mode : Mode) : Nat → Goal → List Token → Outcome (List Tree) → Prop
  | noAtom {levels} :
    Reading mode levels .expression [] (.fault (.rejected (.noAtom mode.stop)) [])
  | notAtom {levels token rest} (hword : token.text ≠ "(") (hkind : admits mode token = false) :
    Reading mode levels .expression (token :: rest)
      (.fault (.rejected (.notAtom token.text token.offset)) (token :: rest))
  | noLeaf {levels token rest cause} (hword : token.text ≠ "(") (hkind : admits mode token = true)
      (hleaf : Tree.ofToken token = .error cause) :
    Reading mode levels .expression (token :: rest) (.fault (.misplaced cause) rest)
  | atom {levels token rest leaf} (hword : token.text ≠ "(") (hkind : admits mode token = true)
      (hleaf : Tree.ofToken token = .ok leaf) :
    Reading mode levels .expression (token :: rest) (.ok [atomTree leaf] rest)
  | tooDeep {token rest} (hword : token.text = "(") :
    Reading mode 0 .expression (token :: rest)
      (.fault (.rejected (.tooDeep token.offset)) (token :: rest))
  | noOpening {levels token rest cause} (hword : token.text = "(")
      (hleaf : Tree.ofToken token = .error cause) :
    Reading mode (levels + 1) .expression (token :: rest) (.fault (.misplaced cause) rest)
  | inside {levels token rest opening cause last} (hword : token.text = "(")
      (hleaf : Tree.ofToken token = .ok opening)
      (hitems : Reading mode levels (.expressions closes) rest (.fault cause last)) :
    Reading mode (levels + 1) .expression (token :: rest) (.fault cause last)
  | unclosed {levels token rest opening items} (hword : token.text = "(")
      (hleaf : Tree.ofToken token = .ok opening)
      (hitems : Reading mode levels (.expressions closes) rest (.ok items [])) :
    Reading mode (levels + 1) .expression (token :: rest)
      (.fault (.rejected (.notLiteral ")" none mode.stop)) [])
  | noClosing {levels token rest opening items last after cause} (hword : token.text = "(")
      (hleaf : Tree.ofToken token = .ok opening)
      (hitems : Reading mode levels (.expressions closes) rest (.ok items (last :: after)))
      (hlast : last.text = ")") (hclosing : Tree.ofToken last = .error cause) :
    Reading mode (levels + 1) .expression (token :: rest) (.fault (.misplaced cause) after)
  | list {levels token rest opening items last after closing} (hword : token.text = "(")
      (hleaf : Tree.ofToken token = .ok opening)
      (hitems : Reading mode levels (.expressions closes) rest (.ok items (last :: after)))
      (hlast : last.text = ")") (hclosing : Tree.ofToken last = .ok closing) :
    Reading mode (levels + 1) .expression (token :: rest)
      (.ok [.branch .sexpr [listTree opening items closing]] after)
  | done {levels stop tokens} (hstop : stop tokens = true) :
    Reading mode levels (.expressions stop) tokens (.ok [] tokens)
  | failed {levels stop tokens cause rest} (hstop : stop tokens = false)
      (hfirst : Reading mode levels .expression tokens (.fault cause rest)) :
    Reading mode levels (.expressions stop) tokens (.fault cause rest)
  | more {levels stop tokens tree rest outcome} (hstop : stop tokens = false)
      (hfirst : Reading mode levels .expression tokens (.ok [tree] rest))
      (hothers : Reading mode levels (.expressions stop) rest outcome) :
    Reading mode levels (.expressions stop) tokens (outcome.map (tree :: ·))

/-- An expression that starts with a parenthesis is a list, one level further in. -/
theorem parse_of_open {token : Token} (h : token.text = "(") (levels : Nat) (mode : Mode)
    (rest : List Token) :
    Goal.expression.parse (levels + 1) mode (token :: rest) =
      (listOf ⟨seqOf (sexpr levels), progresses_seqOf _⟩ mode (token :: rest)).map fun tree =>
        [.branch .sexpr [tree]] := by
  change (sexprOf (listOf ⟨seqOf (sexpr levels), progresses_seqOf _⟩) mode
    (token :: rest)).map _ = _
  rw [sexprOf_of_open h, Outcome.map_map]

/-- An expression that starts otherwise is an atom. -/
theorem parse_of_not_open {tokens : List Token} (h : nextIs "(" tokens = false) (levels : Nat)
    (mode : Mode) :
    Goal.expression.parse levels mode tokens =
      (atom mode tokens).map fun tree => [.branch .sexpr [tree]] := by
  cases levels with
  | zero =>
      change (sexprOf tooDeep mode tokens).map _ = _
      rw [sexprOf_of_not_open h, Outcome.map_map]
  | succ levels =>
      change (sexprOf (listOf ⟨seqOf (sexpr levels), progresses_seqOf _⟩) mode tokens).map _ = _
      rw [sexprOf_of_not_open h, Outcome.map_map]

/-- A reading has the outcome of the procedure that it is a reading for. -/
theorem Reading.parse_eq {mode : Mode} {levels : Nat} {goal : Goal} {tokens : List Token}
    {outcome : Outcome (List Tree)} (reading : Reading mode levels goal tokens outcome) :
    goal.parse levels mode tokens = outcome := by
  induction reading with
  | noAtom => rw [parse_of_not_open rfl]; rfl
  | notAtom hword hkind =>
      rw [parse_of_not_open (by simpa [nextIs] using hword), atom_of_not_admits hkind]
      rfl
  | noLeaf hword hkind hleaf =>
      rw [parse_of_not_open (by simpa [nextIs] using hword), atom_of_admits hkind,
        advance_of_error hleaf]
      rfl
  | atom hword hkind hleaf =>
      rw [parse_of_not_open (by simpa [nextIs] using hword), atom_of_admits hkind,
        advance_of_ok hleaf]
      rfl
  | @tooDeep token rest hword =>
      change (sexprOf Grammar.tooDeep mode (token :: rest)).map _ = _
      rw [sexprOf_of_open hword]
      rfl
  | noOpening hword hleaf =>
      rw [parse_of_open hword, listOf_eq, literal_of_eq hword, advance_of_error hleaf]
      rfl
  | inside hword hleaf hitems ih =>
      rw [Goal.parse] at ih
      rw [parse_of_open hword, listOf_eq, literal_of_eq hword, advance_of_ok hleaf]
      simp only [ih]
      rfl
  | unclosed hword hleaf hitems ih =>
      rw [Goal.parse] at ih
      rw [parse_of_open hword, listOf_eq, literal_of_eq hword, advance_of_ok hleaf]
      simp only [ih]
      rfl
  | noClosing hword hleaf hitems hlast hclosing ih =>
      rw [Goal.parse] at ih
      rw [parse_of_open hword, listOf_eq, literal_of_eq hword, advance_of_ok hleaf]
      simp only [ih, literal_of_eq hlast, advance_of_error hclosing]
      rfl
  | list hword hleaf hitems hlast hclosing ih =>
      rw [Goal.parse] at ih
      rw [parse_of_open hword, listOf_eq, literal_of_eq hword, advance_of_ok hleaf]
      simp only [ih, literal_of_eq hlast, advance_of_ok hclosing]
      rfl
  | done hstop => exact Procedure.untilStop_of_stop hstop
  | failed hstop hfirst ih => exact Procedure.untilStop_of_fault hstop (Outcome.map_eq_fault ih)
  | more hstop hfirst hothers ihfirst ihothers =>
      obtain ⟨tree, hrun, htree⟩ := Outcome.map_eq_ok ihfirst
      cases htree
      rw [Goal.parse] at ihothers ⊢
      rw [Procedure.untilStop_of_ok hstop hrun, ihothers]

/-- Repetition can be read as soon as its steps can. -/
private theorem exists_reading_expressions {mode : Mode} {levels : Nat}
    (h : ∀ tokens, ∃ outcome, Reading mode levels .expression tokens outcome)
    (stop : List Token → Bool) (tokens : List Token) :
    ∃ outcome, Reading mode levels (.expressions stop) tokens outcome := by
  cases hstop : stop tokens with
  | true => exact ⟨_, .done hstop⟩
  | false =>
      obtain ⟨first, hfirst⟩ := h tokens
      cases first with
      | fault cause rest => exact ⟨_, .failed hstop hfirst⟩
      | ok trees rest =>
          obtain ⟨tree, hrun, rfl⟩ := Outcome.map_eq_ok hfirst.parse_eq
          have hless := (sexpr levels).progresses _ _ _ _ hrun
          obtain ⟨others, hothers⟩ := exists_reading_expressions h stop rest
          exact ⟨_, .more hstop hfirst hothers⟩
termination_by tokens.length

private theorem exists_reading_word {mode : Mode} {levels : Nat} {token : Token}
    (hword : token.text ≠ "(") (rest : List Token) :
    ∃ outcome, Reading mode levels .expression (token :: rest) outcome := by
  cases hkind : admits mode token with
  | false => exact ⟨_, .notAtom hword hkind⟩
  | true =>
      cases hleaf : Tree.ofToken token with
      | error cause => exact ⟨_, .noLeaf hword hkind hleaf⟩
      | ok leaf => exact ⟨_, .atom hword hkind hleaf⟩

private theorem exists_reading_list {mode : Mode} {levels : Nat} {token : Token}
    (hword : token.text = "(") (rest : List Token)
    (hitems : ∃ outcome, Reading mode levels (.expressions closes) rest outcome) :
    ∃ outcome, Reading mode (levels + 1) .expression (token :: rest) outcome := by
  cases hleaf : Tree.ofToken token with
  | error cause => exact ⟨_, .noOpening hword hleaf⟩
  | ok opening =>
      obtain ⟨outcome, hitems⟩ := hitems
      cases outcome with
      | fault cause last => exact ⟨_, .inside hword hleaf hitems⟩
      | ok items last =>
          rcases closes_cases (Procedure.stop_of_untilStop_ok hitems.parse_eq) with
            rfl | ⟨closer, after, rfl, hlast⟩
          · exact ⟨_, .unclosed hword hleaf hitems⟩
          · cases hclosing : Tree.ofToken closer with
            | error cause => exact ⟨_, .noClosing hword hleaf hitems hlast hclosing⟩
            | ok closing => exact ⟨_, .list hword hleaf hitems hlast hclosing⟩

/-- Every token list can be read: the constructors leave no case out. -/
theorem exists_reading (mode : Mode) (levels : Nat) (goal : Goal) (tokens : List Token) :
    ∃ outcome, Reading mode levels goal tokens outcome := by
  have expression (tokens : List Token) :
      ∃ outcome, Reading mode levels .expression tokens outcome := by
    -- Only the room for lists shrinks on the way in, so the tokens are arbitrary at each level.
    induction levels generalizing tokens with
    | zero =>
        cases tokens with
        | nil => exact ⟨_, .noAtom⟩
        | cons token rest =>
            by_cases hword : token.text = "("
            · exact ⟨_, .tooDeep hword⟩
            · exact exists_reading_word hword rest
    | succ levels ih =>
        cases tokens with
        | nil => exact ⟨_, .noAtom⟩
        | cons token rest =>
            by_cases hword : token.text = "("
            · exact exists_reading_list hword rest (exists_reading_expressions ih closes rest)
            · exact exists_reading_word hword rest
  cases goal with
  | expression => exact expression tokens
  | expressions stop => exact exists_reading_expressions expression stop tokens

/-- The readings of a token list are what the procedures make of it. -/
theorem reading_iff {mode : Mode} {levels : Nat} {goal : Goal} {tokens : List Token}
    {outcome : Outcome (List Tree)} :
    Reading mode levels goal tokens outcome ↔ goal.parse levels mode tokens = outcome := by
  refine ⟨Reading.parse_eq, fun h => ?_⟩
  obtain ⟨found, reading⟩ := exists_reading mode levels goal tokens
  rw [← h, reading.parse_eq]
  exact reading

/-- Nothing is put back: what a reading leaves is an end of what it was given. -/
theorem Reading.rest_suffix {mode : Mode} {levels : Nat} {goal : Goal} {tokens : List Token}
    {outcome : Outcome (List Tree)} (reading : Reading mode levels goal tokens outcome) :
    outcome.rest <:+ tokens := by
  induction reading with
  | noAtom | notAtom | tooDeep | done => exact List.suffix_rfl
  | noLeaf | atom | noOpening => exact List.suffix_cons _ _
  | unclosed => exact List.nil_suffix
  | inside _ _ _ ih => exact ih.trans (List.suffix_cons _ _)
  | noClosing _ _ _ _ _ ih | list _ _ _ _ _ ih =>
      exact ((List.suffix_cons _ _).trans ih).trans (List.suffix_cons _ _)
  | failed _ _ ih => exact ih
  | more _ _ _ ihfirst ihothers =>
      rw [Outcome.rest_map]
      exact ihothers.trans ihfirst

/-- The goals that the procedures have where so many lists are open: an expression is never looked
for at a parenthesis that closes a list, and only the end of the tokens ends a program. -/
def Goal.Arises (opened : Nat) (tokens : List Token) : Goal → Prop
  | .expression => tokens ≠ [] ∧ (0 < opened → nextIs ")" tokens = false)
  | .expressions stop => stop = if opened = 0 then List.isEmpty else closes

theorem Goal.Arises.expression {opened : Nat} {stop : List Token → Bool} {tokens : List Token}
    (h : Goal.Arises opened tokens (.expressions stop)) (hstop : stop tokens = false) :
    Goal.Arises opened tokens .expression := by
  have hstop' : (if opened = 0 then List.isEmpty else closes) tokens = false := by
    rw [← h]
    exact hstop
  split at hstop'
  · exact ⟨by simpa using hstop', fun hpos => by omega⟩
  · rw [closes, Bool.or_eq_false_iff] at hstop'
    exact ⟨by simpa using hstop'.1, fun _ => hstop'.2⟩

theorem Goal.Arises.eq_zero_of_close {opened : Nat} {token : Token} {rest : List Token}
    (h : Goal.Arises opened (token :: rest) .expression) (htext : token.text = ")") :
    opened = 0 := by
  have hclosed : ¬0 < opened := mt h.2 (by simp [nextIs, htext])
  omega

theorem program_eq (levels : Nat) (mode : Mode) (tokens : List Token) :
    program levels mode tokens =
      ((Goal.expressions List.isEmpty).parse levels mode tokens).map (.branch .program) :=
  Parse.bind_return (Tree.branch .program) mode tokens

/-- A program is the expressions read up to the end of the tokens. -/
theorem parseWithin_ok_iff {levels : Nat} {strict : Bool} {tokens : List Token} {tree : Tree} :
    parseWithin levels strict tokens = .ok tree ↔
      ∃ trees, tree = .branch .program trees ∧
        Reading ⟨strict, Token.endOf tokens⟩ levels (.expressions List.isEmpty) tokens
          (.ok trees []) := by
  simp only [reading_iff, parseWithin, program_eq]
  constructor
  · intro h
    cases hrun : (Goal.expressions List.isEmpty).parse levels ⟨strict, Token.endOf tokens⟩ tokens
      with
    | fault cause rest => simp [hrun] at h
    | ok trees rest =>
        have hend : rest = [] := List.isEmpty_iff.mp (Procedure.stop_of_untilStop_ok hrun)
        simp only [hrun, Outcome.map_ok, Except.ok.injEq] at h
        exact ⟨trees, h.symm, by rw [hend]⟩
  · rintro ⟨trees, rfl, hrun⟩
    rw [hrun]
    rfl

theorem parseWithin_error_iff {levels : Nat} {strict : Bool} {tokens : List Token}
    {cause : ParseFault} :
    parseWithin levels strict tokens = .error cause ↔
      ∃ rest, Reading ⟨strict, Token.endOf tokens⟩ levels (.expressions List.isEmpty) tokens
        (.fault cause rest) := by
  simp only [reading_iff, parseWithin, program_eq]
  cases (Goal.expressions List.isEmpty).parse levels ⟨strict, Token.endOf tokens⟩ tokens <;> simp

end Sexpr.Grammar
