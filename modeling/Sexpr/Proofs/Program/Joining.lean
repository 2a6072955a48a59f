import Sexpr.Program
import Sexpr.Proofs.Grammar.DepthScan
import Sexpr.Proofs.Grammar.Splicing

/-!
Texts put together. With blanks between them two texts are read as two programs one behind the
other, or the second one fails as it does alone.
-/

namespace Sexpr

open Grammar
open Text (isBlank)

namespace Program

/-- What is recorded does not change what is read. -/
theorem attempt_eq_ofText (strict : Bool) (text : String) :
    (attempt strict text).2 = ofText strict text := by
  unfold attempt
  cases ofText strict text with
  | ok program => rfl
  | error fault =>
      cases fault with
      | lexing cause => rfl
      | parsing cause => cases cause <;> rfl

theorem ofText_of_stuck {text : String} {tokens : List Token} {stop : Nat}
    (lexing : Lexing 0 text.toList tokens (some stop)) (strict : Bool) :
    ofText strict text = .error (.lexing (.ofOffset text.toList stop)) := by
  rw [ofText, tokenize, lexing.scan_eq]

theorem ofText_of_tokens {text : String} {tokens : List Token}
    (lexing : Lexing 0 text.toList tokens none) (strict : Bool) :
    ofText strict text =
      ((parse strict tokens).map fun tree => ⟨tokens, tree⟩).mapError ReadFault.parsing := by
  rw [ofText, tokenize_eq_ok_iff.mpr lexing]
  cases h : parse strict tokens with
  | ok tree =>
      simp only [h]
      rfl
  | error cause =>
      simp only [h]
      rfl

/-- A text that is read is cut into tokens, and these are parsed. -/
theorem ofText_eq_ok {strict : Bool} {text : String} {program : Program}
    (h : ofText strict text = .ok program) :
    Lexing 0 text.toList program.tokens none ∧ parse strict program.tokens = .ok program.tree := by
  obtain ⟨tokens, fault, lexing⟩ := exists_lexing 0 text.toList
  cases fault with
  | some stop =>
      rw [ofText_of_stuck lexing] at h
      cases h
  | none =>
      rw [ofText_of_tokens lexing] at h
      cases hparse : parse strict tokens with
      | error cause =>
          rw [hparse] at h
          cases h
      | ok tree =>
          rw [hparse] at h
          cases h
          exact ⟨lexing, hparse⟩

end Program

/-- The tokens of a text are of token classes, so each of them has a place in a tree. -/
theorem Lexing.isLexical {offset : Nat} {text : List Char} {tokens : List Token}
    {fault : Option Nat} (lexing : Lexing offset text tokens fault) :
    ∀ token ∈ tokens, token.kind.isLexical = true := by
  intro token member
  obtain ⟨cls, hkind, -⟩ := lexing.isLexeme token member
  rw [hkind]
  rfl

theorem parse_ne_misplaced {strict : Bool} {tokens : List Token}
    (hkinds : ∀ token ∈ tokens, token.kind.isLexical = true) (cause : KindFault) :
    parse strict tokens ≠ .error (.misplaced cause) := by
  have houtcome := parseWithin_of_fault? nestingLimit strict hkinds
  rw [← parse] at houtcome
  split at houtcome
  · obtain ⟨tree, htree⟩ := houtcome
    simp [htree]
  · simp [houtcome]

/-- What a scan leaves does not depend on what stands before the text. -/
theorem LexFault.remaining_append (front back : List Char) (stop : Nat) :
    (LexFault.ofOffset (front ++ back) (stop + front.length)).remaining =
      (LexFault.ofOffset back stop).remaining := by
  have hfront : front.drop (stop + front.length) = [] := List.drop_eq_nil_of_le (by omega)
  simp only [ofOffset]
  rw [List.drop_append, hfront, Nat.add_sub_cancel, List.nil_append]

/-- A text that stands behind a program, with blanks between them, is read as it is alone. If it is
a program, its tokens and its expressions come behind those of the first one; if not, it fails in
the same stage and for the same reason. All its places are later by the length of what precedes
it. -/
theorem attempt_joined {strict : Bool} {front gap back : String} {first : Program}
    (hgap : ∀ c ∈ gap.toList, isBlank c = true) (hne : gap ≠ "")
    (hfront : (Program.attempt strict front).2 = .ok first) :
    let shift : Int := (front.length + gap.length : Nat)
    let whole := (Program.attempt strict (front ++ gap ++ back)).2
    match (Program.attempt strict back).2 with
    | .ok second => whole = .ok ⟨first.tokens ++ second.tokens.map (Token.moved (· + shift)),
        .branch .program (first.tree.children ++ second.tree.children)⟩
    | .error (.lexing fault) => ∃ later, whole = .error (.lexing later) ∧
        later.remaining = fault.remaining ∧ later.offset = fault.offset + shift
    | .error (.parsing (.rejected fault)) =>
        ∃ later, whole = .error (.parsing (.rejected later)) ∧
          later.expected? = fault.expected? ∧ later.found? = fault.found? ∧
          later.offset? = fault.offset?.map (· + shift)
    | .error (.parsing (.misplaced _)) => False := by
  intro shift whole
  rw [Program.attempt_eq_ofText] at hfront ⊢
  have hwhole : whole = Program.ofText strict (front ++ gap ++ back) :=
    Program.attempt_eq_ofText _ _
  obtain ⟨hlexing, hparse⟩ := Program.ofText_eq_ok hfront
  obtain ⟨trees, htree, -⟩ := parseWithin_ok_iff.mp hparse
  rw [htree] at hparse
  obtain ⟨others, fault, hback⟩ := exists_lexing 0 back.toList
  have hseam := hlexing.seam hgap (by simpa using hne) hback
  rw [← List.append_assoc, ← String.toList_append, ← String.toList_append, String.length_toList,
    String.length_toList] at hseam
  cases fault with
  | some stop =>
      have hremaining := LexFault.remaining_append (front ++ gap).toList back.toList stop
      rw [← String.toList_append, String.length_toList, String.length_append] at hremaining
      rw [Program.ofText_of_stuck hback, hwhole, Program.ofText_of_stuck hseam]
      exact ⟨_, rfl, hremaining, rfl⟩
  | none =>
      have happend : parse strict (first.tokens ++ others.map (Token.moved (· + shift))) =
          ((parse strict others).map fun tree =>
            .branch .program (trees ++ tree.children)).mapError (ParseFault.moved (· + shift)) :=
        parseWithin_append hparse others shift
      rw [hwhole, Program.ofText_of_tokens hback, Program.ofText_of_tokens hseam, happend]
      cases hothers : parse strict others with
      | ok tree =>
          rw [htree]
          rfl
      | error cause =>
          cases cause with
          | misplaced cause => exact parse_ne_misplaced hback.isLexical cause hothers
          | rejected cause =>
              obtain ⟨hexpected, hfound, -, -, hoffset⟩ := cause.report_moved (· + shift)
              exact ⟨_, rfl, hexpected, hfound, hoffset⟩

/-- A parenthesis that closes nothing, behind a number and a wide space. -/
theorem attempt_joined_unopened :
    let first : Program := ⟨[⟨.lexical .int, "5", 0⟩], .branch .program [atomTree (.leaf .int "5")]⟩
    (Program.attempt true "5").2 = .ok first ∧
      ∃ later, (Program.attempt true ("5" ++ "\u3000" ++ ")")).2 =
          .error (.parsing (.rejected later)) ∧
        later.expected? = none ∧ later.found? = some (Text.quoted ")") ∧
        later.offset? = some 2 := by
  intro first
  have hfront : (Program.attempt true "5").2 = .ok first := by
    have lexing : Lexing 0 "5".toList first.tokens none :=
      @Lexing.cut _ _ ⟨.int, ['5']⟩ _ _ rfl .finished
    have reading : Reading ⟨true, 1⟩ nestingLimit (.expressions List.isEmpty) first.tokens
        (.ok [atomTree (.leaf .int "5")] []) := .more rfl (.atom (by decide) rfl rfl) (.done rfl)
    have hparse : parse true first.tokens = .ok first.tree :=
      parseWithin_ok_iff.mpr ⟨_, rfl, reading⟩
    rw [Program.attempt_eq_ofText, Program.ofText_of_tokens lexing, hparse]
    rfl
  have hback : (Program.attempt true ")").2 =
      .error (.parsing (.rejected (.notAtom ")" 0))) := by
    have lexing : Lexing 0 ")".toList [⟨.lexical .literal, ")", 0⟩] none :=
      @Lexing.cut _ _ ⟨.literal, [')']⟩ _ _ rfl .finished
    have reading : Reading ⟨true, 1⟩ nestingLimit (.expressions List.isEmpty)
        [⟨.lexical .literal, ")", 0⟩] (.fault (.rejected (.notAtom ")" 0))
          [⟨.lexical .literal, ")", 0⟩]) := .failed rfl (.notAtom (by decide) rfl)
    have hparse : parse true [⟨.lexical .literal, ")", 0⟩] =
        .error (.rejected (.notAtom ")" 0)) := parseWithin_error_iff.mpr ⟨_, reading⟩
    rw [Program.attempt_eq_ofText, Program.ofText_of_tokens lexing, hparse]
    rfl
  have hgap : ∀ c ∈ "\u3000".toList, isBlank c = true := by simp; decide
  have h := @attempt_joined true "5" "\u3000" ")" first hgap (by decide) hfront
  rw [hback] at h
  exact ⟨hfront, h⟩

end Sexpr
