import Sexpr.Proofs.Program.Joining
import Sexpr.Proofs.Program.Spelling
import Sexpr.Proofs.Token.Strings

/-!
Two ways to read a text. `read` gives the tree alone and `attempt` the whole program. They cut and
parse the text each for itself; here both are compared with `ofText`, and so with one another. A
text fails by a place that is no token or by tokens that are no derivation, and there is no third
way.
-/

namespace Sexpr

open Grammar

namespace Program

/-- What is recorded does not change the tree that is read either. -/
theorem read_eq_ofText (strict : Bool) (text : String) :
    (read strict text).2 = (ofText strict text).map Program.tree := by
  unfold read ofText
  cases tokenize text with
  | error cause => rfl
  | ok tokens =>
      cases hparse : parse strict tokens with
      | error cause =>
          simp only [hparse]
          rfl
      | ok tree =>
          simp only [hparse]
          rfl

theorem read_eq_error_iff {strict : Bool} {text : String} {fault : ReadFault} :
    (read strict text).2 = .error fault ↔ ofText strict text = .error fault := by
  rw [read_eq_ofText]
  cases ofText strict text <;> simp [Except.map]

/-- Whether a text fails in its first stage is decided before anything is parsed. -/
theorem ofText_eq_lexing_iff {strict : Bool} {text : String} {fault : LexFault} :
    ofText strict text = .error (.lexing fault) ↔ tokenize text = .error fault := by
  unfold ofText
  cases tokenize text with
  | error cause => simp
  | ok tokens =>
      simp only [reduceCtorEq, iff_false]
      cases parse strict tokens <;> simp

theorem ofText_eq_parsing_iff {strict : Bool} {text : String} {fault : ParseFault} :
    ofText strict text = .error (.parsing fault) ↔
      ∃ tokens, tokenize text = .ok tokens ∧ parse strict tokens = .error fault := by
  unfold ofText
  cases tokenize text with
  | error cause => simp
  | ok tokens =>
      simp only [Except.ok.injEq, exists_eq_left']
      cases parse strict tokens <;> simp

/-- No token of a text is out of place in a tree. -/
theorem ofText_ne_misplaced (strict : Bool) (text : String) (cause : KindFault) :
    ofText strict text ≠ .error (.parsing (.misplaced cause)) := by
  obtain ⟨tokens, fault, lexing⟩ := exists_lexing 0 text.toList
  cases fault with
  | some stop => simp [ofText_of_stuck lexing]
  | none =>
      rw [ofText_of_tokens lexing]
      intro h
      cases hparse : parse strict tokens with
      | ok tree =>
          rw [hparse] at h
          cases h
      | error found =>
          rw [hparse] at h
          cases h
          exact parse_ne_misplaced lexing.isLexical cause hparse

theorem ofText_eq_ok_iff {strict : Bool} {text : String} {program : Program} :
    ofText strict text = .ok program ↔
      tokenize text = .ok program.tokens ∧ (read strict text).2 = .ok program.tree := by
  constructor
  · intro h
    refine ⟨tokenize_eq_ok_iff.mpr (ofText_eq_ok h).1, ?_⟩
    rw [read_eq_ofText, h]
    rfl
  · rintro ⟨htokens, hread⟩
    obtain ⟨tokens, htokens', hparse⟩ := read_ok_iff.mp hread
    rw [htokens] at htokens'
    cases htokens'
    rw [ofText_of_tokens (tokenize_eq_ok_iff.mp htokens), hparse]
    rfl

/-- A scan that meets no fault is enough to know that a text is a program. -/
theorem isOk_ofText {strict : Bool} {text : String} {tokens : List Token}
    (htokens : tokenize text = .ok tokens)
    (hverdict : verdict nestingLimit strict 0 tokens = .accepted) :
    (ofText strict text).isOk = true := by
  have lexing := tokenize_eq_ok_iff.mp htokens
  have houtcome := parseWithin_of_fault? nestingLimit strict lexing.isLexical
  rw [hverdict] at houtcome
  obtain ⟨tree, htree⟩ := houtcome
  rw [ofText_of_tokens lexing, show parse strict tokens = .ok tree from htree]
  rfl

end Program

/-- A text has a fault just where a walk along its quotes does not come out of a string. -/
theorem tokenize_error_iff_unended {text : String} {opening : Nat} :
    (∃ fault, tokenize text = .error fault ∧ fault.offset = opening) ↔
      Quoting.unended (Quoting.outside.walk 0 text.toList) = some opening := by
  obtain ⟨tokens, fault, lexing⟩ := exists_lexing 0 text.toList
  rw [lexing.unended_walk]
  cases fault with
  | none => simp [tokenize_eq_ok_iff.mpr lexing]
  | some stop =>
      have hfault : tokenize text = .error (.ofOffset text.toList stop) := by
        rw [tokenize, lexing.scan_eq]
      simp only [hfault, Except.error.injEq, exists_eq_left', LexFault.ofOffset, Option.some.injEq]
      exact Int.natCast_inj

/-- Both ways to read a text come to the same end. They give the same tree, the one way with all
tokens of the text, or the same fault in the same stage. A string without an end is a fault
whatever stands before it, and no token ever stands where its kind has no place. -/
theorem Program.attempt_agrees (strict : Bool) (text : String) :
    (∀ program, (attempt strict text).2 = .ok program ↔
      tokenize text = .ok program.tokens ∧ (read strict text).2 = .ok program.tree) ∧
    (∀ tree, (read strict text).2 = .ok tree ↔
      ∃ tokens, (attempt strict text).2 = .ok ⟨tokens, tree⟩) ∧
    (∀ fault, (attempt strict text).2 = .error (.lexing fault) ↔
      (read strict text).2 = .error (.lexing fault)) ∧
    (∀ fault, (attempt strict text).2 = .error (.parsing (.rejected fault)) ↔
      (read strict text).2 = .error (.parsing (.rejected fault))) ∧
    (∀ fault, (read strict text).2 = .error (.lexing fault) ↔ tokenize text = .error fault) ∧
    (∀ opening : Nat,
      (∃ fault, (read strict text).2 = .error (.lexing fault) ∧ fault.offset = opening) ↔
        Quoting.unended (Quoting.outside.walk 0 text.toList) = some opening) ∧
    ∀ cause, (attempt strict text).2 ≠ .error (.parsing (.misplaced cause)) ∧
      (read strict text).2 ≠ .error (.parsing (.misplaced cause)) := by
  have hlexing (fault : LexFault) :
      (read strict text).2 = .error (.lexing fault) ↔ tokenize text = .error fault :=
    read_eq_error_iff.trans ofText_eq_lexing_iff
  rw [attempt_eq_ofText]
  refine ⟨fun program => ofText_eq_ok_iff, fun tree => ?_, fun fault => read_eq_error_iff.symm,
    fun fault => read_eq_error_iff.symm, hlexing, fun opening => ?_, fun cause => ?_⟩
  · constructor
    · intro hread
      obtain ⟨tokens, htokens, -⟩ := read_ok_iff.mp hread
      exact ⟨tokens, ofText_eq_ok_iff.mpr ⟨htokens, hread⟩⟩
    · rintro ⟨tokens, h⟩
      exact (ofText_eq_ok_iff.mp h).2
  · simp only [hlexing]
    exact tokenize_error_iff_unended
  · have hplaced := ofText_ne_misplaced strict text cause
    exact ⟨hplaced, mt read_eq_error_iff.mp hplaced⟩

end Sexpr
