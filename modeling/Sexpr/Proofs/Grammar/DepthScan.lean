import Sexpr.Proofs.Grammar.Language

/-!
Parsing as a flat scan. Whether a token list is a program, and which token is at fault if it is
none, can be told by going through the tokens once with a count of the lists that are open. The
procedures call one another and look for the end of the tokens in several places; the main statement
is that for all of that they fail where the scan stops, and for the same reason.
-/

namespace Sexpr.Grammar

/-- Where a scan ends: behind the last token with all lists closed, at a token that cannot be an
atom, at a parenthesis that opens one list too many, or behind the last token with a list open. -/
inductive Verdict where
  | accepted
  | notAtom (token : Token)
  | tooDeep (token : Token)
  | unclosed
  deriving DecidableEq

/-- Goes through the tokens with the count of open lists. A closing parenthesis where no list is
open is a word like any other. -/
def verdict (limit : Nat) (strict : Bool) (opened : Nat) : List Token → Verdict
  | [] => if opened = 0 then .accepted else .unclosed
  | token :: rest =>
      if token.text = "(" then
        if limit < opened + 1 then .tooDeep token else verdict limit strict (opened + 1) rest
      else if token.text = ")" ∧ 0 < opened then verdict limit strict (opened - 1) rest
      else if strict = true ∧ token.kind.isAtomic = false then .notAtom token
      else verdict limit strict opened rest

def Verdict.fault? (stop : Int) : Verdict → Option SyntaxFault
  | .accepted => none
  | .notAtom token => some (.notAtom token.text token.offset)
  | .tooDeep token => some (.tooDeep token.offset)
  | .unclosed => some (.notLiteral ")" none stop)

section Steps

variable {limit : Nat} {strict : Bool} {opened : Nat} {token : Token}

theorem verdict_open (hword : token.text = "(") (hroom : opened < limit) (rest : List Token) :
    verdict limit strict opened (token :: rest) = verdict limit strict (opened + 1) rest := by
  rw [verdict, if_pos hword, if_neg (by omega)]

theorem verdict_close (hword : token.text = ")") (rest : List Token) :
    verdict limit strict (opened + 1) (token :: rest) = verdict limit strict opened rest := by
  rw [verdict, if_neg (by simp [hword]), if_pos ⟨hword, by omega⟩, Nat.add_sub_cancel]

/-- What is no parenthesis, or closes nothing, is judged by its class. -/
theorem verdict_word {mode : Mode} (hword : token.text ≠ "(")
    (hclose : token.text = ")" → opened = 0) (rest : List Token) :
    verdict limit mode.strict opened (token :: rest) =
      if admits mode token = true then verdict limit mode.strict opened rest
      else .notAtom token := by
  have hnot : ¬(token.text = ")" ∧ 0 < opened) := by
    rintro ⟨htext, hpos⟩
    have := hclose htext
    omega
  rw [verdict, if_neg hword, if_neg hnot]
  cases hstrict : mode.strict <;> cases hkind : token.kind.isAtomic <;>
    simp [admits, hstrict, hkind]

end Steps

/-- The scan goes through the tokens without a stop, and changes the count of open lists from the
one number to the other. -/
structure Passes (limit : Nat) (strict : Bool) (opened : Nat) (taken : List Token)
    (opened' : Nat) : Prop where
  verdict_append : ∀ others,
    verdict limit strict opened (taken ++ others) = verdict limit strict opened' others
  foldl_eq : taken.foldl Token.openedAfter opened = opened'

namespace Passes

variable {limit opened opened' opened'' : Nat} {strict : Bool} {token : Token}
  {front back : List Token}

theorem nil : Passes limit strict opened [] opened :=
  ⟨fun _ => rfl, rfl⟩

theorem append (hfront : Passes limit strict opened front opened')
    (hback : Passes limit strict opened' back opened'') :
    Passes limit strict opened (front ++ back) opened'' := by
  refine ⟨fun others => ?_, ?_⟩
  · rw [List.append_assoc, hfront.verdict_append, hback.verdict_append]
  · rw [List.foldl_append, hfront.foldl_eq, hback.foldl_eq]

theorem opening (hword : token.text = "(") (hroom : opened < limit) :
    Passes limit strict opened [token] (opened + 1) :=
  ⟨verdict_open hword hroom, if_pos hword⟩

theorem closing (hword : token.text = ")") :
    Passes limit strict (opened + 1) [token] opened := by
  refine ⟨verdict_close hword, ?_⟩
  rw [List.foldl_cons, List.foldl_nil, Token.openedAfter, if_neg (by simp [hword]), if_pos hword,
    Nat.add_sub_cancel]

theorem word {mode : Mode} (hword : token.text ≠ "(") (hclose : token.text = ")" → opened = 0)
    (hkind : admits mode token = true) :
    Passes limit mode.strict opened [token] opened := by
  refine ⟨fun others => ?_, ?_⟩
  · rw [List.singleton_append, verdict_word hword hclose, if_pos hkind]
  · rw [List.foldl_cons, List.foldl_nil, Token.openedAfter, if_neg hword]
    split
    · have hzero := hclose ‹_›
      omega
    · rfl

end Passes

/-- The scan stops in front of such tokens, with so many lists open, and for such a fault. -/
inductive Stops (mode : Mode) (limit : Nat) : Nat → List Token → SyntaxFault → Prop
  | notAtom {opened token rest} (hword : token.text ≠ "(")
      (hclose : token.text = ")" → opened = 0) (hkind : admits mode token = false) :
    Stops mode limit opened (token :: rest) (.notAtom token.text token.offset)
  | tooDeep {token rest} (hword : token.text = "(") :
    Stops mode limit limit (token :: rest) (.tooDeep token.offset)
  | unclosed {opened} : Stops mode limit (opened + 1) [] (.notLiteral ")" none mode.stop)

theorem Stops.fault?_verdict {mode : Mode} {limit opened : Nat} {tokens : List Token}
    {fault : SyntaxFault} (stops : Stops mode limit opened tokens fault) :
    (verdict limit mode.strict opened tokens).fault? mode.stop = some fault := by
  cases stops with
  | notAtom hword hclose hkind =>
      rw [verdict_word hword hclose, if_neg (by simp [hkind])]
      rfl
  | tooDeep hword =>
      rw [verdict, if_pos hword, if_pos (Nat.lt_succ_self limit)]
      rfl
  | unclosed => rfl

/-- A scan follows an outcome when it passes the tokens that were taken. Behind a success it has as
many lists open as before, and where a procedure failed it stops, for the same fault. -/
def Follows (mode : Mode) (limit opened : Nat) (tokens : List Token) :
    Outcome (List Tree) → Prop
  | .ok _ rest => ∃ taken, tokens = taken ++ rest ∧ Passes limit mode.strict opened taken opened
  | .fault cause rest => ∃ taken opened' fault, tokens = taken ++ rest ∧
    Passes limit mode.strict opened taken opened' ∧ cause = .rejected fault ∧
    Stops mode limit opened' rest fault

/-- What a scan passes before a procedure starts is passed before it fails. -/
theorem Follows.behind {mode : Mode} {limit opened opened' : Nat} {front tokens : List Token}
    {cause : ParseFault} {rest : List Token}
    (hfront : Passes limit mode.strict opened front opened')
    (h : Follows mode limit opened' tokens (.fault cause rest)) :
    Follows mode limit opened (front ++ tokens) (.fault cause rest) := by
  obtain ⟨taken, opened'', fault, rfl, hpasses, hcause, hstops⟩ := h
  exact ⟨front ++ taken, opened'', fault, (List.append_assoc ..).symm, hfront.append hpasses,
    hcause, hstops⟩

theorem ofToken_ne_error {token : Token} {cause : KindFault} (h : token.kind.isLexical = true) :
    Tree.ofToken token ≠ .error cause := by
  cases hkind : token.kind with
  | lexical cls => simp [Tree.ofToken_of_lexical hkind]
  | grammar rule => simp [hkind, Symbol.isLexical] at h

/-- The invariant of the scan: the levels that a procedure has left and the lists that are open make
up the limit. -/
theorem Reading.follows {mode : Mode} {levels : Nat} {goal : Goal} {tokens : List Token}
    {outcome : Outcome (List Tree)} (reading : Reading mode levels goal tokens outcome)
    {limit opened : Nat} (hlimit : opened + levels = limit) (harises : goal.Arises opened tokens)
    (hkinds : ∀ token ∈ tokens, token.kind.isLexical = true) :
    Follows mode limit opened tokens outcome := by
  -- Inside a list one more list is open and one level less is left, so the sum stays.
  induction reading generalizing opened with
  | noAtom => exact absurd rfl harises.1
  | notAtom hword hkind =>
      exact ⟨[], opened, _, rfl, .nil, rfl, .notAtom hword harises.eq_zero_of_close hkind⟩
  | noLeaf _ _ hleaf => exact absurd hleaf (ofToken_ne_error (hkinds _ List.mem_cons_self))
  | @atom levels token rest leaf hword hkind hleaf =>
      exact ⟨[token], rfl, .word hword harises.eq_zero_of_close hkind⟩
  | tooDeep hword =>
      obtain rfl : opened = limit := hlimit
      exact ⟨[], opened, _, rfl, .nil, rfl, .tooDeep hword⟩
  | noOpening _ hleaf => exact absurd hleaf (ofToken_ne_error (hkinds _ List.mem_cons_self))
  | @inside levels token rest opening cause last hword hleaf hitems ih =>
      have hinner := @ih (opened + 1) (by omega) rfl (List.forall_mem_cons.mp hkinds).2
      exact hinner.behind (.opening hword (by omega))
  | @unclosed levels token rest opening items hword hleaf hitems ih =>
      obtain ⟨taken, htaken, hpasses⟩ :=
        @ih (opened + 1) (by omega) rfl (List.forall_mem_cons.mp hkinds).2
      refine ⟨token :: taken, opened + 1, _, by rw [htaken]; rfl, ?_, rfl, .unclosed⟩
      exact (Passes.opening hword (by omega)).append hpasses
  | @noClosing levels token rest opening items last after cause hword hleaf hitems hlast hclosing =>
      have hmem : last ∈ token :: rest :=
        List.mem_cons_of_mem token (hitems.rest_suffix.subset List.mem_cons_self)
      exact absurd hclosing (ofToken_ne_error (hkinds last hmem))
  | @list levels token rest opening items last after closing hword hleaf hitems hlast hclosing ih =>
      obtain ⟨taken, htaken, hpasses⟩ :=
        @ih (opened + 1) (by omega) rfl (List.forall_mem_cons.mp hkinds).2
      refine ⟨[token] ++ (taken ++ [last]), by simp [htaken], ?_⟩
      exact (Passes.opening hword (by omega)).append (hpasses.append (.closing hlast))
  | done => exact ⟨[], rfl, .nil⟩
  | failed hstop _ ih => exact ih hlimit (harises.expression hstop) hkinds
  | @more levels stop tokens tree rest outcome hstop hfirst hothers ihfirst ihothers =>
      obtain ⟨start, rfl, hstart⟩ := ihfirst hlimit (harises.expression hstop) hkinds
      have htail := ihothers hlimit harises
        fun token member => hkinds token (List.mem_append_right start member)
      cases outcome with
      | ok others last =>
          obtain ⟨back, rfl, hback⟩ := htail
          exact ⟨start ++ back, (List.append_assoc ..).symm, hstart.append hback⟩
      | fault cause last => exact htail.behind hstart

/-- The outcome of a parse is the fault of the scan, or a success if the scan meets none. -/
theorem parseWithin_of_fault? (limit : Nat) (strict : Bool) {tokens : List Token}
    (hkinds : ∀ token ∈ tokens, token.kind.isLexical = true) :
    match (verdict limit strict 0 tokens).fault? (Token.endOf tokens) with
    | none => ∃ tree, parseWithin limit strict tokens = .ok tree
    | some fault => parseWithin limit strict tokens = .error (.rejected fault) := by
  obtain ⟨outcome, reading⟩ :=
    exists_reading ⟨strict, Token.endOf tokens⟩ limit (.expressions List.isEmpty) tokens
  have follows := reading.follows (Nat.zero_add limit) rfl hkinds
  cases outcome with
  | ok trees rest =>
      have hend : rest = [] := List.isEmpty_iff.mp (Procedure.stop_of_untilStop_ok reading.parse_eq)
      subst hend
      obtain ⟨taken, htaken, hpasses⟩ := follows
      have haccepted : verdict limit strict 0 tokens = .accepted := by
        rw [htaken, hpasses.verdict_append]
        rfl
      rw [haccepted]
      exact ⟨_, parseWithin_ok_iff.mpr ⟨trees, rfl, reading⟩⟩
  | fault cause rest =>
      obtain ⟨taken, opened, fault, htaken, hpasses, rfl, hstops⟩ := follows
      have hfault : (verdict limit strict 0 tokens).fault? (Token.endOf tokens) = some fault := by
        rw [htaken, hpasses.verdict_append, ← htaken]
        exact hstops.fault?_verdict
      rw [hfault]
      exact parseWithin_error_iff.mpr ⟨rest, reading⟩

/-- How many tokens there are, and how many expressions side by side, does not matter to the room
for lists: a scan only stops for want of it in tokens that nest too deep. -/
theorem verdict_ne_tooDeep {limit opened : Nat} {tokens : List Token}
    (h : Token.nesting opened tokens ≤ limit) (strict : Bool) (token : Token) :
    verdict limit strict opened tokens ≠ .tooDeep token := by
  induction tokens generalizing opened with
  | nil =>
      rw [verdict]
      split <;> simp
  | cons first rest ih =>
      have hrest : Token.nesting (first.openedAfter opened) rest ≤ limit :=
        Nat.le_trans (Nat.le_max_right _ _) h
      have hnow := Nat.le_trans (le_nesting _ rest) hrest
      by_cases hopen : first.text = "("
      · have hafter : first.openedAfter opened = opened + 1 := if_pos hopen
        rw [hafter] at hrest hnow
        rw [verdict_open hopen (by omega)]
        exact ih hrest
      by_cases hclose : first.text = ")" ∧ 0 < opened
      · have hafter : first.openedAfter opened = opened - 1 := by
          rw [Token.openedAfter, if_neg hopen, if_pos hclose.1]
        rw [hafter] at hrest
        rw [verdict, if_neg hopen, if_pos hclose]
        exact ih hrest
      · have hafter : first.openedAfter opened = opened := by
          rw [Token.openedAfter, if_neg hopen]
          split
          · have hzero : ¬0 < opened := fun hpos => hclose ⟨‹_›, hpos⟩
            omega
          · rfl
        rw [hafter] at hrest
        rw [verdict, if_neg hopen, if_neg hclose]
        split
        · simp
        · exact ih hrest

/-- A parse is decided by one scan from left to right, at any limit and in either mode. It succeeds
where the scan accepts; else it fails with the message, the offset and the words of what the scan
stopped at. Lists that nest within the limit are never too deep, and no parse fails for want of a
token or an atom. -/
theorem parseWithin_verdict (limit : Nat) (strict : Bool) (tokens : List Token)
    (hkinds : ∀ token ∈ tokens, token.kind.isLexical = true) :
    (match verdict limit strict 0 tokens with
      | .accepted => ∃ tree, parseWithin limit strict tokens = .ok tree
      | .notAtom token => ∃ fault : SyntaxFault,
          parseWithin limit strict tokens = .error (.rejected fault) ∧
          fault.message = "Unexpected " ++ Text.quoted token.text ++ ", expected an atom" ∧
          fault.offset? = some token.offset ∧ fault.found? = some (Text.quoted token.text)
      | .tooDeep _ => ∃ fault : SyntaxFault,
          parseWithin limit strict tokens = .error (.rejected fault) ∧
          fault.message = "Lists nested too deeply to parse"
      | .unclosed => ∃ (fault : SyntaxFault) (last : Token),
          parseWithin limit strict tokens = .error (.rejected fault) ∧
          tokens.getLast? = some last ∧ fault.expected? = some ")" ∧
          fault.found? = some "end of input" ∧
          fault.offset? = some (last.offset + last.text.length)) ∧
    (Token.nesting 0 tokens ≤ limit →
      ∀ offset, parseWithin limit strict tokens ≠ .error (.rejected (.tooDeep offset))) ∧
    parseWithin limit strict tokens ≠ .error (.rejected .noToken) ∧
    ∀ offset, parseWithin limit strict tokens ≠ .error (.rejected (.noAtom offset)) := by
  have houtcome := parseWithin_of_fault? limit strict hkinds
  have hroom (h : Token.nesting 0 tokens ≤ limit) := verdict_ne_tooDeep h strict
  cases hverdict : verdict limit strict 0 tokens with
  | accepted =>
      rw [hverdict] at houtcome
      obtain ⟨tree, htree⟩ := houtcome
      exact ⟨⟨tree, htree⟩, by simp [htree]⟩
  | notAtom token =>
      rw [hverdict] at houtcome
      have herror : parseWithin limit strict tokens =
        .error (.rejected (.notAtom token.text token.offset)) := houtcome
      exact ⟨⟨_, herror, rfl, rfl, rfl⟩, by simp [herror]⟩
  | tooDeep token =>
      rw [hverdict] at houtcome
      have herror : parseWithin limit strict tokens =
        .error (.rejected (.tooDeep token.offset)) := houtcome
      exact ⟨⟨_, herror, rfl⟩, fun h => absurd hverdict (hroom h token), by simp [herror]⟩
  | unclosed =>
      rw [hverdict] at houtcome
      have herror : parseWithin limit strict tokens =
        .error (.rejected (.notLiteral ")" none (Token.endOf tokens))) := houtcome
      cases hlast : tokens.getLast? with
      | none =>
          rw [List.getLast?_eq_none_iff] at hlast
          subst hlast
          cases hverdict
      | some last =>
          have hend : Token.endOf tokens = last.offset + last.text.length := by
            rw [Token.endOf, hlast]
            rfl
          refine ⟨⟨_, last, herror, rfl, rfl, rfl, ?_⟩, by simp [herror]⟩
          rw [← hend]
          rfl

/-- Words that contradict their classes: a list of an identifier and an integer, a string that is a
parenthesis and closes nothing, and then a word of no class. -/
theorem parseWithin_verdict_mismatched :
    let tokens : List Token := [⟨.lexical .id, "(", 0⟩, ⟨.lexical .int, ")", 1⟩,
      ⟨.lexical .string, ")", 2⟩, ⟨.lexical .invalid, "x", 9⟩]
    (∀ token ∈ tokens, token.kind.isLexical = true) ∧
    ∃ fault : SyntaxFault, parseWithin 1 true tokens = .error (.rejected fault) ∧
      fault.message = "Unexpected " ++ Text.quoted "x" ++ ", expected an atom" ∧
      fault.offset? = some 9 ∧ fault.found? = some (Text.quoted "x") := by
  intro tokens
  have hkinds : ∀ token ∈ tokens, token.kind.isLexical = true := by decide
  have hverdict : verdict 1 true 0 tokens = .notAtom ⟨.lexical .invalid, "x", 9⟩ := by decide
  have h := (parseWithin_verdict 1 true tokens hkinds).1
  rw [hverdict] at h
  exact ⟨hkinds, h⟩

end Sexpr.Grammar
