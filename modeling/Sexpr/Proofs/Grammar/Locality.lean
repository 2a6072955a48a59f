import Sexpr.Grammar.Cursor
import Sexpr.Proofs.Grammar.Derivation
import Sexpr.Proofs.Grammar.Language
import Sexpr.Proofs.Grammar.Splicing

/-!
The rules at a place of a token list. A rule that succeeds has read some tokens from its place on
and at most looked at the next one: in any other list that has these tokens at the same place it
succeeds alike. So it does not matter what stands before them or behind; only a sequence has to be
ended by what follows. A program from some place on is the program of the tokens from there.
-/

namespace Sexpr

namespace Grammar

structure Takes (levels : Nat) (rule : Rule) (strict : Bool) (taken : List Token) (tree : Tree) :
    Prop where
  ne_nil : taken ≠ []
  contents_eq : tree.contents = taken.map Token.content
  elsewhere : ∀ (stop : Int) (others : List Token), (rule = .seq → closes others = true) →
    procedure levels rule ⟨strict, stop⟩ (taken ++ others) = .ok tree others

theorem reading_expression_iff {mode : Mode} {levels : Nat} {tokens rest : List Token}
    {tree : Tree} : Reading mode levels .expression tokens (.ok [tree] rest) ↔
      (sexpr levels).run mode tokens = .ok tree rest := by
  rw [reading_iff]
  change ((sexpr levels).run mode tokens).map ([·]) = _ ↔ _
  constructor
  · intro h
    obtain ⟨found, hrun, hfound⟩ := Outcome.map_eq_ok h
    cases hfound
    exact hrun
  · intro h
    rw [h]
    rfl

/-- What a reading took is what its trees say, and is read alike wherever it is ended. -/
theorem Reading.exists_taken {mode : Mode} {levels : Nat} {goal : Goal} {tokens rest : List Token}
    {trees : List Tree} (reading : Reading mode levels goal tokens (.ok trees rest)) :
    ∃ taken, tokens = taken ++ rest ∧
      trees.flatMap Tree.contents = taken.map Token.content ∧
      ∀ stop others, goal.EndsAt others →
        Reading ⟨mode.strict, stop⟩ levels goal (taken ++ others) (.ok trees others) := by
  have hadmits (stop : Int) (token : Token) (h : admits mode token = true) :
      admits ⟨mode.strict, stop⟩ token = true := h
  obtain ⟨taken, rfl, -⟩ := reading.elsewhere (hadmits 0) rfl
  have hcontents := reading.contents_eq rfl
  rw [List.map_append] at hcontents
  refine ⟨taken, rfl, (List.append_cancel_right hcontents).symm, fun stop others hends => ?_⟩
  obtain ⟨taken', htaken, helsewhere⟩ := reading.elsewhere (hadmits stop) rfl
  rw [List.append_cancel_right htaken]
  exact helsewhere others hends

theorem takes_sexpr {levels : Nat} {mode : Mode} {tokens rest : List Token} {tree : Tree}
    (h : (sexpr levels).run mode tokens = .ok tree rest) :
    ∃ taken, tokens = taken ++ rest ∧ Takes levels .sexpr mode.strict taken tree := by
  have hless := (sexpr levels).progresses _ _ _ _ h
  obtain ⟨taken, rfl, hcontents, helsewhere⟩ := (reading_expression_iff.mpr h).exists_taken
  refine ⟨taken, rfl, ?_, ?_, fun stop others _ => ?_⟩
  · rintro rfl
    exact absurd hless (Nat.lt_irrefl _)
  · rwa [List.flatMap_singleton] at hcontents
  · exact reading_expression_iff.mp (helsewhere stop others trivial)

theorem takes_atom {levels : Nat} {mode : Mode} {tokens rest : List Token} {tree : Tree}
    (h : atom mode tokens = .ok tree rest) :
    ∃ taken, tokens = taken ++ rest ∧ Takes levels .atom mode.strict taken tree := by
  cases tokens with
  | nil => cases h
  | cons token after =>
      cases hkind : admits mode token with
      | false =>
          rw [atom_of_not_admits hkind] at h
          cases h
      | true =>
          rw [atom_of_admits hkind] at h
          obtain ⟨leaf, hadvance, rfl⟩ := Outcome.map_eq_ok h
          cases hleaf : Tree.ofToken token with
          | error cause =>
              rw [advance_of_error hleaf] at hadvance
              cases hadvance
          | ok found =>
              rw [advance_of_ok hleaf] at hadvance
              cases hadvance
              refine ⟨[token], rfl, List.cons_ne_nil _ _, ?_, fun stop others _ => ?_⟩
              · rw [Tree.contents_single, Tree.contents_of_ofToken hleaf]
                rfl
              · have hkind' : admits ⟨mode.strict, stop⟩ token = true := hkind
                change atom _ (token :: others) = _
                rw [atom_of_admits hkind', advance_of_ok hleaf]
                rfl

theorem nextIs_of_list {levels : Nat} {mode : Mode} {tokens rest : List Token} {tree : Tree}
    (h : list levels mode tokens = .ok tree rest) : nextIs "(" tokens = true := by
  cases levels with
  | zero => cases h
  | succ levels =>
      cases hopen : nextIs "(" tokens with
      | true => rfl
      | false =>
          obtain ⟨cause, last, hliteral⟩ :
              ∃ cause last, literal "(" mode tokens = .fault cause last := by
            cases tokens with
            | nil => exact ⟨_, _, rfl⟩
            | cons token after =>
                refine ⟨_, _, if_neg ?_⟩
                simpa [nextIs] using hopen
          rw [list, seq, listOf_eq, hliteral] at h
          cases h

/-- An expression that starts with a parenthesis is a list. -/
theorem run_sexpr_of_open {tokens : List Token} (hopen : nextIs "(" tokens = true) (levels : Nat)
    (mode : Mode) :
    (sexpr levels).run mode tokens =
      (list levels mode tokens).map fun tree => .branch .sexpr [tree] := by
  obtain ⟨token, rest, rfl, htoken⟩ :
      ∃ token rest, tokens = token :: rest ∧ token.text = "(" := by
    cases tokens with
    | nil => cases hopen
    | cons token rest => exact ⟨token, rest, rfl, by simpa [nextIs] using hopen⟩
  cases levels with
  | zero => exact sexprOf_of_open htoken tooDeep mode rest
  | succ levels => exact sexprOf_of_open htoken (listOf (seq levels)) mode rest

theorem takes_list {levels : Nat} {mode : Mode} {tokens rest : List Token} {tree : Tree}
    (h : list levels mode tokens = .ok tree rest) :
    ∃ taken, tokens = taken ++ rest ∧ Takes levels .list mode.strict taken tree := by
  have hopen := nextIs_of_list h
  have hrun := run_sexpr_of_open hopen levels mode
  rw [h] at hrun
  obtain ⟨taken, rfl, htakes⟩ := takes_sexpr hrun
  refine ⟨taken, rfl, htakes.ne_nil, ?_, fun stop others _ => ?_⟩
  · rw [← htakes.contents_eq, Tree.contents_single]
  · have hopen' : nextIs "(" (taken ++ others) = true := by
      cases taken with
      | nil => exact absurd rfl htakes.ne_nil
      | cons token taken => exact hopen
    have helsewhere := htakes.elsewhere stop others nofun
    rw [procedure, run_sexpr_of_open hopen'] at helsewhere
    obtain ⟨found, hlist, hfound⟩ := Outcome.map_eq_ok helsewhere
    cases hfound
    exact hlist

theorem takes_seq {levels : Nat} {mode : Mode} {tokens rest : List Token} {tree : Tree}
    (h : (seq levels).run mode tokens = .ok tree rest) :
    ∃ taken, tokens = taken ++ rest ∧ Takes levels .seq mode.strict taken tree := by
  have hseq := seqOf_eq (sexpr levels) mode tokens
  cases hfirst : (sexpr levels).run mode tokens with
  | fault cause last =>
      rw [hfirst] at hseq
      cases hseq.symm.trans h
  | ok first middle =>
      rw [hfirst] at hseq
      obtain ⟨others, hothers, rfl⟩ := Outcome.map_eq_ok (hseq.symm.trans h)
      have reading : Reading mode levels (.expressions closes) middle (.ok others rest) :=
        reading_iff.mpr hothers
      obtain ⟨start, rfl, htakes⟩ := takes_sexpr hfirst
      obtain ⟨back, rfl, hcontents, helsewhere⟩ := reading.exists_taken
      refine ⟨start ++ back, (List.append_assoc _ _ _).symm, ?_, ?_, fun stop after hends => ?_⟩
      · exact List.append_ne_nil_of_left_ne_nil htakes.ne_nil back
      · rw [contents_chain, List.flatMap_cons, htakes.contents_eq, hcontents, List.map_append]
      · have hafter : (Goal.expressions closes).EndsAt after := ⟨hends rfl, fun _ _ _ => rfl⟩
        have hstart := htakes.elsewhere stop (back ++ after) nofun
        have hback := reading_iff.mp (helsewhere stop after hafter)
        change seqOf (sexpr levels) _ _ = _
        rw [procedure] at hstart
        rw [Goal.parse] at hback
        rw [seqOf_eq, List.append_assoc, hstart]
        dsimp only
        rw [hback]
        rfl

/-- Every rule but that of programs takes the tokens that it reads, wherever they stand. -/
theorem takes_procedure {levels : Nat} {rule : Rule} (hrule : rule ≠ .program) {mode : Mode}
    {tokens rest : List Token} {tree : Tree}
    (h : procedure levels rule mode tokens = .ok tree rest) :
    ∃ taken, tokens = taken ++ rest ∧ Takes levels rule mode.strict taken tree := by
  cases rule with
  | program => exact absurd rfl hrule
  | sexpr => exact takes_sexpr h
  | list => exact takes_list h
  | seq => exact takes_seq h
  | atom => exact takes_atom h

theorem endOf_drop {tokens : List Token} {index : Nat} (h : tokens.drop index ≠ []) :
    Token.endOf (tokens.drop index) = Token.endOf tokens := by
  have hless : index < tokens.length := by simpa using h
  rw [Token.endOf, Token.endOf, List.getLast?_drop, if_neg (Nat.not_le_of_lt hless)]

/-- Where a program ends is only asked for where tokens are missing, and none are missing where none
are left. -/
theorem program_drop (levels : Nat) (strict : Bool) (tokens : List Token) (index : Nat) :
    program levels ⟨strict, Token.endOf tokens⟩ (tokens.drop index) =
      program levels ⟨strict, Token.endOf (tokens.drop index)⟩ (tokens.drop index) := by
  by_cases hnil : tokens.drop index = []
  · have hdone (stop : Int) : program levels ⟨strict, stop⟩ [] = .ok (.branch .program []) [] := by
      rw [program_eq, (Reading.done rfl).parse_eq]
      rfl
    rw [hnil, hdone, hdone]
  · rw [endOf_drop hnil]

/-- Tokens that stand in a list from some place on are what it goes on with there. -/
theorem eq_append_drop {taken others : List Token} {index : Nat}
    (h : ∀ place, index ≤ place → place < index + taken.length →
      others[place]? = taken[place - index]?) :
    others.drop index = taken ++ others.drop (index + taken.length) := by
  have hstart : taken <+: others.drop index := by
    rw [List.prefix_iff_getElem?]
    intro place hplace
    rw [List.getElem?_drop, h (index + place) (by omega) (by omega), Nat.add_sub_cancel_left]
    exact List.getElem?_eq_getElem hplace
  obtain ⟨rest, hrest⟩ := hstart
  rw [← hrest, ← List.drop_drop, ← hrest, List.drop_left]

theorem closes_drop {tokens : List Token} {index : Nat}
    (h : ∀ token, tokens[index]? = some token → token.text = ")") :
    closes (tokens.drop index) = true := by
  cases hnext : tokens.drop index with
  | nil => rfl
  | cons token after =>
      have htoken : tokens[index]? = some token := by
        rw [← List.head?_drop, hnext]
        rfl
      exact closes_cons_eq_true (h token htoken) after

end Grammar

namespace Cursor

open Grammar

/-- A rule that succeeds is its procedure with room for as many levels as lists may nest. -/
theorem rule_of_run {cursor after : Cursor} {rule : Rule} {tree : Tree}
    (h : cursor.run (procedure nestingLimit rule) = (.ok tree, after)) :
    cursor.rule rule = (.ok tree, after) := by
  rw [Cursor.rule, h]

/-- What a procedure does at a place it does with the tokens from there on. -/
theorem run_at {α : Type} (parse : Parse α) (tokens : List Token) (index : Nat) (strict : Bool) :
    (Cursor.mk tokens index strict).run parse =
      let outcome := parse ⟨strict, Token.endOf tokens⟩ (tokens.drop index)
      (outcome.result.mapError .parsing,
        ⟨tokens, index + ((tokens.drop index).length - outcome.rest.length : Nat), strict⟩) := by
  have hunread : (Cursor.mk tokens index strict).unread = .ok (tokens.drop index) := by
    simp [unread]
  rw [run, hunread]
  dsimp only [mode, seek]
  cases parse ⟨strict, Token.endOf tokens⟩ (tokens.drop index) <;> rfl

theorem run_of_ok {levels index : Nat} {rule : Rule} {strict : Bool}
    {tokens taken rest : List Token} {tree : Tree} (hdrop : tokens.drop index = taken ++ rest)
    (h : procedure levels rule ⟨strict, Token.endOf tokens⟩ (taken ++ rest) = .ok tree rest) :
    (Cursor.mk tokens index strict).run (procedure levels rule) =
      (.ok tree, ⟨tokens, (index + taken.length : Nat), strict⟩) := by
  rw [run_at, hdrop, h]
  dsimp only [Outcome.rest]
  rw [List.length_append, Nat.add_sub_cancel]
  rfl

theorem exists_ok_of_run {levels index : Nat} {rule : Rule} {strict : Bool} {tokens : List Token}
    {tree : Tree} {cursor : Cursor}
    (h : (Cursor.mk tokens index strict).run (procedure levels rule) = (.ok tree, cursor)) :
    ∃ rest, procedure levels rule ⟨strict, Token.endOf tokens⟩ (tokens.drop index) =
      .ok tree rest := by
  rw [run_at] at h
  cases hrun : procedure levels rule ⟨strict, Token.endOf tokens⟩ (tokens.drop index) with
  | ok found rest =>
      rw [hrun] at h
      cases h
      exact ⟨rest, rfl⟩
  | fault cause rest =>
      rw [hrun] at h
      cases h

/-- A rule reads from its place on. If it succeeds, it has taken some tokens, which are what its
tree says, and it takes them wherever they stand at that place; only a sequence has to be ended by
what follows them. A program is the program of the tokens from its place on. -/
theorem run_local (levels : Nat) (strict : Bool) (tokens : List Token) (index : Nat) :
    (∀ rule ≠ .program, ∀ tree cursor,
      (Cursor.mk tokens index strict).run (procedure levels rule) = (.ok tree, cursor) →
      ∃ stop : Nat, cursor = ⟨tokens, stop, strict⟩ ∧ index < stop ∧ stop ≤ tokens.length ∧
        tree.contents = (tokens.extract index stop).map Token.content ∧
        ∀ others : List Token,
          (∀ place, index ≤ place → place < stop → others[place]? = tokens[place]?) →
          (rule = .seq → ∀ token, others[stop]? = some token → token.text = ")") →
          (Cursor.mk others index strict).run (procedure levels rule) =
            (.ok tree, ⟨others, stop, strict⟩)) ∧
    (Cursor.mk tokens index strict).run (program levels) =
      ((parseWithin levels strict (tokens.drop index)).mapError .parsing,
        ⟨tokens, index + ((ofTokens (tokens.drop index) strict).run (program levels)).2.index,
          strict⟩) := by
  constructor
  · intro rule hrule tree cursor hrun
    obtain ⟨rest, hok⟩ := exists_ok_of_run hrun
    obtain ⟨taken, hdrop, htakes⟩ := takes_procedure hrule hok
    rw [hdrop] at hok
    have hcursor := (run_of_ok hdrop hok).symm.trans hrun
    have hlength := congrArg List.length hdrop
    have hpos := List.length_pos_iff.mpr htakes.ne_nil
    rw [List.length_drop, List.length_append] at hlength
    refine ⟨index + taken.length, (Prod.mk.inj hcursor).2.symm, by omega, by omega, ?_,
      fun others hagree hends => ?_⟩
    · rw [htakes.contents_eq, List.extract_eq_take_drop, hdrop, Nat.add_sub_cancel_left,
        List.take_left]
    · have htaken (place : Nat) (hle : index ≤ place) (hlt : place < index + taken.length) :
          others[place]? = taken[place - index]? := by
        have hplace : (taken ++ rest)[place - index]? = taken[place - index]? :=
          List.getElem?_append_left (by omega)
        rw [hagree place hle hlt, ← hplace, ← hdrop, List.getElem?_drop, Nat.add_sub_cancel' hle]
      have hothers := eq_append_drop htaken
      exact run_of_ok hothers (htakes.elsewhere _ _ fun hseq => closes_drop (hends hseq))
  · have hthere := run_at (program levels) (tokens.drop index) 0 strict
    rw [List.drop_zero] at hthere
    rw [run_at, program_drop, parseWithin_eq_result, ofTokens]
    change _ = (_, Cursor.mk tokens (index + ((Cursor.mk (tokens.drop index) (0 : Nat) strict).run
      (program levels)).2.index) strict)
    rw [hthere]
    simp

/-- A list is read alike between two words and behind a parenthesis, where the tokens end with
it. -/
theorem run_local_list :
    let tokens : List Token := [⟨.lexical .id, "a", 0⟩, ⟨.lexical .literal, "(", 2⟩,
      ⟨.lexical .id, "b", 3⟩, ⟨.lexical .literal, ")", 4⟩, ⟨.lexical .id, "c", 6⟩]
    let others := ⟨.lexical .literal, ")", 0⟩ :: (tokens.drop 1).take 3
    ∃ tree, tree.contents =
        [(.lexical .literal, "("), (.lexical .id, "b"), (.lexical .literal, ")")] ∧
      (Cursor.mk tokens 1 true).rule .sexpr = (.ok tree, ⟨tokens, 4, true⟩) ∧
      (Cursor.mk others 1 true).rule .sexpr = (.ok tree, ⟨others, 4, true⟩) := by
  intro tokens others
  have hword : Reading ⟨true, 7⟩ 299 .expression (tokens.drop 2)
      (.ok [atomTree (.leaf .id "b")] (tokens.drop 3)) := .atom (by decide) rfl rfl
  have hlist : Reading ⟨true, 7⟩ 300 .expression (tokens.drop 1) (.ok [_] (tokens.drop 4)) :=
    .list rfl rfl (.more rfl hword (.done rfl)) rfl rfl
  have hrun : (Cursor.mk tokens 1 true).run (procedure nestingLimit .sexpr) =
      (.ok _, ⟨tokens, 4, true⟩) :=
    @run_of_ok nestingLimit 1 .sexpr true tokens ((tokens.drop 1).take 3) (tokens.drop 4) _ rfl
      (reading_expression_iff.mp hlist)
  obtain ⟨stop, hstop, -, -, hcontents, helsewhere⟩ :=
    (run_local nestingLimit true tokens 1).1 .sexpr (by decide) _ _ hrun
  obtain rfl : 4 = stop := by injection hstop with _ hstop _; exact Int.ofNat.inj hstop
  refine ⟨_, hcontents, rule_of_run hrun, rule_of_run ?_⟩
  refine helsewhere others (fun place hfrom hto => ?_) nofun
  obtain rfl | rfl | rfl : place = 1 ∨ place = 2 ∨ place = 3 := by omega
  all_goals rfl

end Cursor

end Sexpr
