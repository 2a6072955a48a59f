import Sexpr.Proofs.Grammar.Places

/-!
Tokens in other surroundings. What was read successfully is read again in front of any other tokens
that end it, and in every mode that admits the same atoms; so programs can be put behind one another
and what is read in strict mode is read in lenient mode.
-/

namespace Sexpr.Grammar

/-- The tokens end what was read. One expression ends by itself; repetition has to stop there, and
to decide by the next token alone. -/
def Goal.EndsAt (others : List Token) : Goal → Prop
  | .expression => True
  | .expressions stop => stop others = true ∧
      ∀ token rest rest', stop (token :: rest) = stop (token :: rest')

theorem endsAt_closes {token : Token} (h : token.text = ")") (rest : List Token) :
    (Goal.expressions closes).EndsAt (token :: rest) :=
  ⟨by simpa [closes, nextIs] using h, fun _ _ _ => rfl⟩

theorem endsAt_end : (Goal.expressions List.isEmpty).EndsAt [] :=
  ⟨rfl, fun _ _ _ => rfl⟩

/-- An expression takes at least one token. -/
theorem Reading.rest_length_lt {mode : Mode} {levels : Nat} {tokens rest : List Token}
    {trees : List Tree} (reading : Reading mode levels .expression tokens (.ok trees rest)) :
    rest.length < tokens.length := by
  obtain ⟨tree, hrun, -⟩ := Outcome.map_eq_ok reading.parse_eq
  exact (sexpr levels).progresses _ _ _ _ hrun

/-- Success does not depend on the tokens behind what was taken, as long as they end it. -/
theorem Reading.elsewhere {mode mode' : Mode}
    (hadmits : ∀ token, admits mode token = true → admits mode' token = true) {levels : Nat}
    {goal : Goal} {tokens : List Token} {outcome : Outcome (List Tree)}
    (reading : Reading mode levels goal tokens outcome) {trees : List Tree} {rest : List Token}
    (hok : outcome = .ok trees rest) :
    ∃ taken, tokens = taken ++ rest ∧ ∀ others, goal.EndsAt others →
      Reading mode' levels goal (taken ++ others) (.ok trees others) := by
  induction reading generalizing trees rest with
  | noAtom | notAtom | noLeaf | tooDeep | noOpening | inside | unclosed | noClosing | failed =>
      cases hok
  | @atom levels token rest leaf hword hkind hleaf =>
      cases hok
      exact ⟨[token], rfl, fun others _ => .atom hword (hadmits token hkind) hleaf⟩
  | @list levels token rest opening items last after closing hword hleaf hitems hlast hclosing ih =>
      cases hok
      obtain ⟨taken, rfl, htaken⟩ := ih rfl
      refine ⟨token :: (taken ++ [last]), by simp, fun others _ => ?_⟩
      have hinner := htaken (last :: others) (endsAt_closes hlast others)
      rw [List.cons_append, List.append_assoc]
      exact .list hword hleaf hinner hlast hclosing
  | done hstop =>
      cases hok
      exact ⟨[], rfl, fun others hends => .done hends.1⟩
  | @more levels stop tokens tree middle outcome hstop hfirst hothers ihfirst ihothers =>
      obtain ⟨items, rfl, rfl⟩ := Outcome.map_eq_ok hok
      have hless := hfirst.rest_length_lt
      obtain ⟨start, rfl, hstart⟩ := ihfirst rfl
      obtain ⟨back, rfl, hback⟩ := ihothers rfl
      cases start with
      | nil => exact absurd hless (Nat.lt_irrefl _)
      | cons token start =>
          refine ⟨token :: start ++ back, by simp, fun others hends => ?_⟩
          have hgoes : stop (token :: (start ++ (back ++ others))) = false :=
            (hends.2 _ _ _).trans hstop
          have hmore := Reading.more hgoes (hstart (back ++ others) trivial) (hback others hends)
          rw [List.append_assoc]
          exact hmore

/-- A program behind a program is read on where the first one ends. -/
theorem Reading.append {mode mode' : Mode}
    (hadmits : ∀ token, admits mode token = true → admits mode' token = true) {levels : Nat}
    {goal : Goal} {tokens : List Token} {outcome : Outcome (List Tree)}
    (reading : Reading mode levels goal tokens outcome)
    (hgoal : goal = .expressions List.isEmpty) {trees : List Tree} (hok : outcome = .ok trees [])
    {others : List Token} {last : Outcome (List Tree)}
    (hothers : Reading mode' levels (.expressions List.isEmpty) others last) :
    Reading mode' levels (.expressions List.isEmpty) (tokens ++ others)
      (last.map (trees ++ ·)) := by
  induction reading generalizing trees with
  | noAtom | notAtom | noLeaf | tooDeep | noOpening | inside | unclosed | noClosing | failed =>
      cases hok
  | atom | list => cases hgoal
  | done hstop =>
      cases hok
      cases last <;> exact hothers
  | @more levels stop tokens tree middle outcome hstop hfirst hitems ihfirst ihitems =>
      cases hgoal
      obtain ⟨items, rfl, rfl⟩ := Outcome.map_eq_ok hok
      obtain ⟨start, rfl, hstart⟩ := hfirst.elsewhere hadmits rfl
      have hrest := ihitems rfl rfl hothers
      have hgoes : (start ++ (middle ++ others)).isEmpty = false := by
        rw [List.isEmpty_eq_false_iff] at hstop ⊢
        rw [← List.append_assoc]
        exact List.append_ne_nil_of_left_ne_nil hstop others
      have hmore := Reading.more hgoes (hstart (middle ++ others) trivial) hrest
      rw [Outcome.map_map] at hmore
      rw [List.append_assoc]
      exact hmore

theorem endOf_append_moved {back : List Token} (hne : back ≠ []) (front : List Token)
    (shift : Int) :
    Token.endOf (front ++ back.map (Token.moved (· + shift))) = Token.endOf back + shift := by
  cases hlast : back.getLast? with
  | none => exact absurd (List.getLast?_eq_none_iff.mp hlast) hne
  | some last =>
      simp only [Token.endOf, List.getLast?_append, List.getLast?_map, hlast, Option.map_some,
        Option.some_or, Token.endOffset, Token.moved]
      omega

/-- A program is parsed behind a program as it is alone, only later. -/
theorem parseWithin_append {levels : Nat} {strict : Bool} {front : List Token} {trees : List Tree}
    (hfront : parseWithin levels strict front = .ok (.branch .program trees))
    (back : List Token) (shift : Int) :
    parseWithin levels strict (front ++ back.map (Token.moved (· + shift))) =
      ((parseWithin levels strict back).map fun tree =>
        .branch .program (trees ++ tree.children)).mapError (ParseFault.moved (· + shift)) := by
  obtain ⟨trees', htrees, hreading⟩ := parseWithin_ok_iff.mp hfront
  cases htrees
  obtain ⟨outcome, reading⟩ := exists_reading ⟨strict, Token.endOf back⟩ levels
    (.expressions List.isEmpty) back
  -- Only tokens that are missing are reported at the end, and none are missing where none are.
  have hback : Reading
      ⟨strict, Token.endOf (front ++ back.map (Token.moved (· + shift)))⟩ levels
      (.expressions List.isEmpty) (back.map (Token.moved (· + shift)))
      (outcome.moved (· + shift)) := by
    by_cases hne : back = []
    · subst hne
      cases reading with
      | done => exact .done rfl
      | failed hstop | more hstop => cases hstop
    · rw [endOf_append_moved hne]
      exact reading.moved isEmpty_unplaced (· + shift)
  have hadmits (stop stop' : Int) (token : Token) (hkind : admits ⟨strict, stop⟩ token = true) :
      admits ⟨strict, stop'⟩ token = true := hkind
  have hwhole := hreading.append (hadmits _ _) rfl rfl hback
  rw [hwhole.parseWithin_eq, reading.parseWithin_eq]
  cases outcome <;> rfl

end Sexpr.Grammar
