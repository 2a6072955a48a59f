import Sexpr.Proofs.Token.Relex
import Sexpr.Token.Scan

/-!
Scanning, character by character. `Lexing` relates a text at an offset to its tokens and its fault,
with one constructor for each thing that can stand at the front of the text; `lexing_iff` states
that this is what `scan` does. The blanks that `next` skips at once are skipped one by one here, so
that nothing about a text has to speak of runs of blanks.
-/

namespace Sexpr

open Text (isBlank)

/-- Blanks and quotes stand in strings only, and parentheses in no other word. -/
theorem Lexeme.IsWord.plain {cls : TokenClass} {word : List Char} (h : IsWord cls word)
    (hstring : cls ≠ .string) :
    ∀ c ∈ word, isBlank c = false ∧ c ≠ '"' ∧ (cls ≠ .literal → isParenthesis c = false) := by
  by_cases hliteral : cls = .literal
  · subst hliteral
    cases h with
    | @literal c hc =>
        rw [isParenthesis, Bool.or_eq_true, beq_iff_eq, beq_iff_eq] at hc
        rw [List.forall_mem_singleton]
        rcases hc with rfl | rfl <;> decide
  · intro c hc
    have hid := h.isIdChar_iff.mpr ⟨hliteral, hstring⟩ c hc
    simp only [isIdChar, Bool.not_eq_true', Bool.or_eq_false_iff, beq_eq_false_iff_ne] at hid
    exact ⟨hid.1.1, hid.1.2, fun _ => hid.2⟩

/-- No lexeme starts with a blank. -/
theorem Lexeme.IsWord.head_not_blank {cls : TokenClass} {c : Char} {tail : List Char}
    (h : IsWord cls (c :: tail)) : isBlank c = false := by
  by_cases hstring : cls = .string
  · subst hstring
    cases h
    decide
  · exact (h.plain hstring c List.mem_cons_self).1

theorem next_blank {c : Char} (h : isBlank c = true) (offset : Nat) (text : List Char) :
    next offset (c :: text) = next (offset + 1) text := by
  have hstart : offset + ((text.takeWhile isBlank).length + 1) =
      offset + 1 + (text.takeWhile isBlank).length := by omega
  simp only [next, List.takeWhile_cons_of_pos h, List.dropWhile_cons_of_pos h, List.length_cons,
    hstart]

theorem next_of_not_blank {c : Char} (h : isBlank c = false) (offset : Nat) (text : List Char) :
    next offset (c :: text) = (Lexeme.first? (c :: text)).elim (.stuck offset) fun lexeme =>
      .token ⟨.lexical lexeme.cls, String.ofList lexeme.word, offset⟩
        (offset + lexeme.word.length) ((c :: text).drop lexeme.word.length) := by
  have hblank : ¬isBlank c = true := by simp [h]
  simp only [next, List.takeWhile_cons_of_neg hblank, List.dropWhile_cons_of_neg hblank,
    List.isEmpty_cons, List.length_nil, Nat.add_zero, Bool.false_eq_true, if_false]
  cases Lexeme.first? (c :: text) <;> rfl

section Scan

variable {offset stop : Nat} {text rest : List Char} {found : Token}

theorem scan_of_finished (h : next offset text = .finished stop) :
    scan offset text = ([], none) := by
  rw [scan]
  split
  · rfl
  all_goals
    rename_i hnext
    rw [h] at hnext
    cases hnext

theorem scan_of_stuck (h : next offset text = .stuck stop) :
    scan offset text = ([], some stop) := by
  rw [scan]
  split
  all_goals
    rename_i hnext
    rw [h] at hnext
    cases hnext
  rfl

theorem scan_of_token (h : next offset text = .token found stop rest) :
    scan offset text = (found :: (scan stop rest).1, (scan stop rest).2) := by
  rw [scan]
  split
  all_goals
    rename_i hnext
    rw [h] at hnext
    cases hnext
  rfl

end Scan

theorem scan_nil (offset : Nat) : scan offset [] = ([], none) :=
  scan_of_finished rfl

theorem scan_blank {c : Char} (h : isBlank c = true) (offset : Nat) (text : List Char) :
    scan offset (c :: text) = scan (offset + 1) text := by
  have hnext := next_blank h offset text
  cases hafter : next (offset + 1) text with
  | finished stop => rw [scan_of_finished (hnext.trans hafter), scan_of_finished hafter]
  | stuck stop => rw [scan_of_stuck (hnext.trans hafter), scan_of_stuck hafter]
  | token found stop rest => rw [scan_of_token (hnext.trans hafter), scan_of_token hafter]

theorem scan_stuck {c : Char} {text : List Char} (hblank : isBlank c = false)
    (hlexeme : Lexeme.first? (c :: text) = none) (offset : Nat) :
    scan offset (c :: text) = ([], some offset) := by
  have hnext := next_of_not_blank hblank offset text
  rw [hlexeme] at hnext
  exact scan_of_stuck hnext

theorem scan_token {cls : TokenClass} {word text : List Char}
    (hlexeme : Lexeme.first? (word ++ text) = some ⟨cls, word⟩) (offset : Nat) :
    scan offset (word ++ text) =
      (⟨.lexical cls, String.ofList word, offset⟩ :: (scan (offset + word.length) text).1,
        (scan (offset + word.length) text).2) := by
  obtain ⟨hword, -⟩ := Lexeme.isWord_of_first? hlexeme
  obtain ⟨c, tail, rfl⟩ := List.exists_cons_of_ne_nil hword.ne_nil
  have hnext := next_of_not_blank hword.head_not_blank offset (tail ++ text)
  rw [← List.cons_append, hlexeme] at hnext
  simp only [Option.elim_some, List.drop_left] at hnext
  exact scan_of_token hnext

/-- What scanning a text that starts at an offset gives: its tokens, and the offset where it got
stuck, if it did. -/
inductive Lexing : Nat → List Char → List Token → Option Nat → Prop
  | finished {offset} : Lexing offset [] [] none
  | blank {offset c text tokens fault} (hblank : isBlank c = true)
      (hrest : Lexing (offset + 1) text tokens fault) :
    Lexing offset (c :: text) tokens fault
  | token {offset cls word text tokens fault}
      (hlexeme : Lexeme.first? (word ++ text) = some ⟨cls, word⟩)
      (hrest : Lexing (offset + word.length) text tokens fault) :
    Lexing offset (word ++ text) (⟨.lexical cls, String.ofList word, offset⟩ :: tokens) fault
  | stuck {offset c text} (hblank : isBlank c = false)
      (hlexeme : Lexeme.first? (c :: text) = none) :
    Lexing offset (c :: text) [] (some offset)

theorem Lexing.scan_eq {offset : Nat} {text : List Char} {tokens : List Token}
    {fault : Option Nat} (lexing : Lexing offset text tokens fault) :
    scan offset text = (tokens, fault) := by
  induction lexing with
  | finished => exact scan_nil _
  | blank hblank hrest ih => rw [scan_blank hblank, ih]
  | token hlexeme hrest ih => rw [scan_token hlexeme, ih]
  | stuck hblank hlexeme => exact scan_stuck hblank hlexeme _

/-- The lexeme at the front of a text is a token of it, and the rest is scanned behind it. -/
theorem Lexing.cut {offset : Nat} {text : List Char} {lexeme : Lexeme} {tokens : List Token}
    {fault : Option Nat} (hlexeme : Lexeme.first? text = some lexeme)
    (hrest : Lexing (offset + lexeme.word.length) (text.drop lexeme.word.length) tokens fault) :
    Lexing offset text (⟨.lexical lexeme.cls, String.ofList lexeme.word, offset⟩ :: tokens)
      fault := by
  obtain ⟨cls, word⟩ := lexeme
  obtain ⟨rest, rfl⟩ := (Lexeme.isWord_of_first? hlexeme).2
  rw [List.drop_left] at hrest
  exact .token hlexeme hrest

theorem exists_lexing (offset : Nat) (text : List Char) :
    ∃ tokens fault, Lexing offset text tokens fault := by
  cases text with
  | nil => exact ⟨_, _, .finished⟩
  | cons c text =>
      cases hblank : isBlank c with
      | true =>
          obtain ⟨tokens, fault, hrest⟩ := exists_lexing (offset + 1) text
          exact ⟨_, _, .blank hblank hrest⟩
      | false =>
          cases hlexeme : Lexeme.first? (c :: text) with
          | none => exact ⟨_, _, .stuck hblank hlexeme⟩
          | some lexeme =>
              have hpos := List.length_pos_iff.mpr (Lexeme.isWord_of_first? hlexeme).1.ne_nil
              have hless : ((c :: text).drop lexeme.word.length).length < (c :: text).length := by
                rw [List.length_drop, List.length_cons]
                omega
              obtain ⟨tokens, fault, hrest⟩ :=
                exists_lexing (offset + lexeme.word.length) ((c :: text).drop lexeme.word.length)
              exact ⟨_, _, .cut hlexeme hrest⟩
termination_by text.length
decreasing_by
  · exact hless
  · exact Nat.lt_succ_self _

theorem lexing_iff {offset : Nat} {text : List Char} {tokens : List Token} {fault : Option Nat} :
    Lexing offset text tokens fault ↔ scan offset text = (tokens, fault) := by
  constructor
  · exact Lexing.scan_eq
  · intro h
    obtain ⟨tokens', fault', lexing⟩ := exists_lexing offset text
    have heq := lexing.scan_eq
    rw [h] at heq
    cases heq
    exact lexing

theorem tokenize_eq_ok_iff {text : String} {tokens : List Token} :
    tokenize text = .ok tokens ↔ Lexing 0 text.toList tokens none := by
  rw [lexing_iff, tokenize]
  split <;> simp_all

/-- What a token says: its kind and its word, without the place where it stands. -/
def Token.content (token : Token) : Symbol × String :=
  (token.kind, token.text)

def Token.IsLexeme (token : Token) : Prop :=
  ∃ cls, token.kind = .lexical cls ∧
    Lexeme.first? token.text.toList = some ⟨cls, token.text.toList⟩

/-- Whatever stood around it, each token that was found is a lexeme by itself. -/
theorem Lexing.isLexeme {offset : Nat} {text : List Char} {tokens : List Token}
    {fault : Option Nat} (lexing : Lexing offset text tokens fault) :
    ∀ token ∈ tokens, token.IsLexeme := by
  induction lexing with
  | finished => simp
  | stuck => simp
  | blank hblank hrest ih => exact ih
  | @token offset cls word text tokens fault hlexeme hrest ih =>
      rw [List.forall_mem_cons]
      refine ⟨⟨cls, rfl, ?_⟩, ih⟩
      rw [String.toList_ofList]
      exact Lexeme.first?_word hlexeme

namespace Token

theorem IsLexeme.of_content_eq {token other : Token} (h : token.IsLexeme)
    (hcontent : token.content = other.content) : other.IsLexeme := by
  obtain ⟨hkind, htext⟩ := Prod.mk.inj hcontent
  rw [IsLexeme, ← hkind, ← htext]
  exact h

theorem IsLexeme.isWord {token : Token} (h : token.IsLexeme) :
    ∃ cls, token.kind = .lexical cls ∧ Lexeme.IsWord cls token.text.toList := by
  obtain ⟨cls, hkind, hfirst⟩ := h
  exact ⟨cls, hkind, (Lexeme.isWord_of_first? hfirst).1⟩

theorem IsLexeme.text_ne_empty {token : Token} (h : token.IsLexeme) : token.text ≠ "" := by
  obtain ⟨cls, -, hword⟩ := h.isWord
  intro hempty
  exact hword.ne_nil (by rw [hempty]; rfl)

/-- A token as a text yields it: parentheses and nothing else are literals, and every other token
is of a class for atoms. -/
def WellClassed (token : Token) : Prop :=
  (token.kind = .lexical .literal ↔ token.text = "(" ∨ token.text = ")") ∧
    (token.kind ≠ .lexical .literal → token.kind.isAtomic = true)

instance (token : Token) : Decidable token.WellClassed :=
  inferInstanceAs (Decidable (_ ∧ _))

theorem IsLexeme.wellClassed {token : Token} (h : token.IsLexeme) : token.WellClassed := by
  obtain ⟨cls, hkind, hword⟩ := h.isWord
  rw [WellClassed, hkind, ← String.toList_inj, ← String.toList_inj]
  generalize token.text.toList = word at hword
  by_cases hliteral : cls = .literal
  · subst hliteral
    cases hword with
    | literal hc => simpa [Lexeme.isParenthesis] using hc
  · refine ⟨iff_of_false (by simpa using hliteral) ?_, fun _ => ?_⟩
    · by_cases hstring : cls = .string
      · subst hstring
        cases hword
        simp
      · rintro (rfl | rfl)
        · exact absurd ((hword.plain hstring '(' (by simp)).2.2 hliteral) (by decide)
        · exact absurd ((hword.plain hstring ')' (by simp)).2.2 hliteral) (by decide)
    · cases hword <;> first | rfl | exact absurd rfl hliteral

end Token

theorem wellClassed_of_tokenize {text : String} {tokens : List Token}
    (h : tokenize text = .ok tokens) : ∀ token ∈ tokens, token.WellClassed := by
  intro token member
  have hlexeme := (tokenize_eq_ok_iff.mp h).isLexeme token member
  exact hlexeme.wellClassed

end Sexpr
