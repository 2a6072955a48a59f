import Sexpr.Proofs.Token.Lexing

/-!
Where tokens stand. Scanning cuts tokens out of a text in the order of the text and skips nothing
but blanks, so the text can be put together again from its tokens and the gaps between them.
Conversely words that are put side by side are cut apart again wherever neither goes on into the
other.
-/

namespace Sexpr

open Text (isBlank)

/-- The token is a stretch of the text, which starts at an offset. -/
def Token.StandsIn (offset : Nat) (text : List Char) (token : Token) : Prop :=
  ∃ before after, text = before ++ (token.text.toList ++ after) ∧
    token.offset = (offset + before.length : Nat)

theorem Token.StandsIn.prepend {offset : Nat} {text : List Char} {token : Token}
    (front : List Char) (h : token.StandsIn (offset + front.length) text) :
    token.StandsIn offset (front ++ text) := by
  obtain ⟨before, after, rfl, hoffset⟩ := h
  refine ⟨front ++ before, after, by rw [List.append_assoc], ?_⟩
  rw [hoffset, List.length_append, Nat.add_assoc]

theorem Token.StandsIn.le_offset {offset : Nat} {text : List Char} {token : Token}
    (h : token.StandsIn offset text) : (offset : Int) ≤ token.offset := by
  obtain ⟨before, after, -, hoffset⟩ := h
  omega

/-- A token of a whole text is the slice of it from its offset on, as long as its word. -/
theorem Token.StandsIn.slice_eq {text : List Char} {token : Token} (h : token.StandsIn 0 text) :
    (text.drop token.offset.toNat).take token.text.length = token.text.toList := by
  obtain ⟨before, after, rfl, hoffset⟩ := h
  have hbefore : token.offset.toNat = before.length := by omega
  rw [hbefore, List.drop_left, ← String.length_toList, List.take_left]

namespace Lexing

variable {offset : Nat} {text : List Char} {tokens : List Token} {fault : Option Nat}

theorem standsIn (lexing : Lexing offset text tokens fault) :
    ∀ token ∈ tokens, token.StandsIn offset text := by
  induction lexing with
  | finished => simp
  | stuck => simp
  | @blank offset c text tokens fault hblank hrest ih =>
      intro token member
      exact (ih token member).prepend [c]
  | @token offset cls word text tokens fault hlexeme hrest ih =>
      intro token member
      rcases List.mem_cons.mp member with rfl | member
      · exact ⟨[], text, by simp, by simp⟩
      · exact (ih token member).prepend word

/-- Each token ends before the next one starts. -/
theorem pairwise_apart (lexing : Lexing offset text tokens fault) :
    tokens.Pairwise fun earlier later =>
      earlier.offset < later.offset ∧ earlier.endOffset ≤ later.offset := by
  induction lexing with
  | finished => exact .nil
  | stuck => exact .nil
  | blank hblank hrest ih => exact ih
  | @token offset cls word text tokens fault hlexeme hrest ih =>
      refine List.pairwise_cons.mpr ⟨fun later member => ?_, ih⟩
      have hlater := (hrest.standsIn later member).le_offset
      have hpos := List.length_pos_iff.mpr (Lexeme.isWord_of_first? hlexeme).1.ne_nil
      simp only [Token.endOffset, String.length_ofList]
      omega

theorem length_le (lexing : Lexing offset text tokens fault) : tokens.length ≤ text.length := by
  induction lexing with
  | finished => exact Nat.le_refl 0
  | stuck => exact Nat.zero_le _
  | blank hblank hrest ih => exact Nat.le_succ_of_le ih
  | token hlexeme hrest ih =>
      have hpos := List.length_pos_iff.mpr (Lexeme.isWord_of_first? hlexeme).1.ne_nil
      rw [List.length_cons, List.length_append]
      omega

/-- A character of a text without a fault that belongs to no token is blank. -/
theorem isBlank_of_uncovered (lexing : Lexing offset text tokens fault) (hfault : fault = none)
    {index : Nat} {c : Char} (hc : text[index]? = some c)
    (huncovered : ∀ token ∈ tokens,
      ¬(token.offset ≤ (offset + index : Nat) ∧ (offset + index : Nat) < token.endOffset)) :
    isBlank c = true := by
  induction lexing generalizing index with
  | finished => simp at hc
  | stuck => cases hfault
  | @blank offset d text tokens fault hblank hrest ih =>
      cases index with
      | zero =>
          cases hc
          exact hblank
      | succ index =>
          refine ih hfault hc fun token member => ?_
          have hrange := huncovered token member
          omega
  | @token offset cls word text tokens fault hlexeme hrest ih =>
      have hfirst := huncovered _ List.mem_cons_self
      simp only [Token.endOffset, String.length_ofList] at hfirst
      obtain ⟨index, rfl⟩ := Nat.exists_eq_add_of_le (show word.length ≤ index by omega)
      rw [List.getElem?_append_right (Nat.le_add_right _ _), Nat.add_sub_cancel_left] at hc
      refine ih hfault hc fun token member => ?_
      have hrange := huncovered token (List.mem_cons_of_mem _ member)
      omega

end Lexing

/-- Words with a gap before each of them and one behind the last. -/
def interleave : (gaps words : List (List Char)) → List Char
  | gap :: gaps, word :: words => gap ++ (word ++ interleave gaps words)
  | gaps, _ => gaps.flatten

theorem interleave_cons_gap (c : Char) (gap : List Char) (gaps words : List (List Char)) :
    interleave ((c :: gap) :: gaps) words = c :: interleave (gap :: gaps) words := by
  cases words <;> rfl

theorem Lexeme.breaks_nil : Breaks [] := by
  simp [Breaks]

theorem Lexeme.breaks_of_blank {c : Char} (h : isBlank c = true) (text : List Char) :
    Breaks (c :: text) := by
  simp [Breaks, isIdChar, h]

namespace Lexing

variable {offset : Nat} {text : List Char} {tokens : List Token} {fault : Option Nat}

/-- A lexeme in front of a text is cut off where the text does not make it longer. -/
theorem lexeme {cls : TokenClass} {word : List Char}
    (hlexeme : Lexeme.first? word = some ⟨cls, word⟩)
    (hbound : cls = .literal ∨ cls = .string ∨ Lexeme.Breaks text)
    (lexing : Lexing (offset + word.length) text tokens fault) :
    Lexing offset (word ++ text) (⟨.lexical cls, String.ofList word, offset⟩ :: tokens) fault :=
  .token (Lexeme.first?_append hlexeme hbound) lexing

theorem single {cls : TokenClass} {word : List Char}
    (hlexeme : Lexeme.first? word = some ⟨cls, word⟩) (offset : Nat) :
    Lexing offset word [⟨.lexical cls, String.ofList word, offset⟩] none := by
  have hend : Lexing (offset + word.length) [] [] none := .finished
  have h := lexeme hlexeme (.inr (.inr Lexeme.breaks_nil)) hend
  rw [List.append_nil] at h
  exact h

end Lexing

/-- A token is a lexeme by itself if its word as a text yields the token and nothing else. -/
theorem Token.tokenize_text_iff {token : Token} :
    tokenize token.text = .ok [⟨token.kind, token.text, 0⟩] ↔ token.IsLexeme := by
  rw [tokenize_eq_ok_iff]
  constructor
  · intro lexing
    exact lexing.isLexeme ⟨token.kind, token.text, 0⟩ (List.mem_singleton_self _)
  · rintro ⟨cls, hkind, hfirst⟩
    have h := Lexing.single hfirst 0
    rw [String.ofList_toList] at h
    rw [hkind]
    exact h

/-- Lexemes that are joined by single spaces are cut apart again. -/
theorem Lexing.exists_spaced {words : List Token} (hwords : ∀ word ∈ words, word.IsLexeme)
    (offset : Nat) :
    ∃ tokens, Lexing offset ([' '].intercalate (words.map fun word => word.text.toList)) tokens
      none ∧ tokens.map Token.content = words.map Token.content := by
  induction words generalizing offset with
  | nil => exact ⟨[], .finished, rfl⟩
  | cons word words ih =>
      rw [List.forall_mem_cons] at hwords
      obtain ⟨⟨cls, hkind, hfirst⟩, hothers⟩ := hwords
      have hcontent : Token.content ⟨.lexical cls, word.text, offset⟩ = word.content := by
        rw [Token.content, Token.content, hkind]
      cases words with
      | nil =>
          have h := single hfirst offset
          rw [String.ofList_toList] at h
          refine ⟨_, by simpa using h, ?_⟩
          rw [List.map_singleton, List.map_singleton, hcontent]
      | cons second others =>
          obtain ⟨tokens, lexing, hcontents⟩ := ih hothers (offset + word.text.toList.length + 1)
          have hspace : isBlank ' ' = true := by decide
          have h := Lexing.lexeme hfirst (.inr (.inr (Lexeme.breaks_of_blank hspace _)))
            (.blank hspace lexing)
          rw [String.ofList_toList] at h
          refine ⟨_, by simpa using h, ?_⟩
          rw [List.map_cons, List.map_cons, hcontent, hcontents]

/-- A text without a fault is its words with blank gaps. -/
theorem Lexing.exists_gaps {offset : Nat} {text : List Char} {tokens : List Token}
    {fault : Option Nat} (lexing : Lexing offset text tokens fault) (hfault : fault = none) :
    ∃ gaps, gaps.length = tokens.length + 1 ∧ (∀ gap ∈ gaps, ∀ c ∈ gap, isBlank c = true) ∧
      text = interleave gaps (tokens.map fun token => token.text.toList) := by
  induction lexing with
  | finished => exact ⟨[[]], by simp, by simp, rfl⟩
  | stuck => cases hfault
  | @blank offset c text tokens fault hblank hrest ih =>
      obtain ⟨gaps, hlength, hgaps, htext⟩ := ih hfault
      obtain ⟨gap, gaps, rfl⟩ := List.exists_cons_of_length_eq_add_one hlength
      rw [List.forall_mem_cons] at hgaps
      refine ⟨(c :: gap) :: gaps, hlength, ?_, ?_⟩
      · rw [List.forall_mem_cons, List.forall_mem_cons]
        exact ⟨⟨hblank, hgaps.1⟩, hgaps.2⟩
      · rw [interleave_cons_gap, htext]
  | @token offset cls word text tokens fault hlexeme hrest ih =>
      obtain ⟨gaps, hlength, hgaps, htext⟩ := ih hfault
      refine ⟨[] :: gaps, by simp [hlength], ?_, ?_⟩
      · rw [List.forall_mem_cons]
        exact ⟨by simp, hgaps⟩
      · rw [List.map_cons, interleave, ← htext, String.toList_ofList, List.nil_append]

/-- The tokens of a text are stretches of it in the order of the text, and all that is left of the
text between them is blank. Blanks and quotes inside a token belong to a string, and parentheses to
a string or a literal. -/
theorem tokenize_layout {text : String} {tokens : List Token} (h : tokenize text = .ok tokens) :
    (∀ token ∈ tokens, token.text ≠ "" ∧ 0 ≤ token.offset ∧
      (text.toList.drop token.offset.toNat).take token.text.length = token.text.toList) ∧
    (tokens.Pairwise fun earlier later =>
      earlier.offset < later.offset ∧ earlier.endOffset ≤ later.offset) ∧
    (∀ (index : Nat) (c : Char), text.toList[index]? = some c →
      (∀ token ∈ tokens, ¬(token.offset ≤ index ∧ index < token.endOffset)) →
        isBlank c = true) ∧
    (∀ token ∈ tokens, token.kind ≠ .lexical .string → ∀ c ∈ token.text.toList,
      isBlank c = false ∧ c ≠ '"' ∧
        (token.kind ≠ .lexical .literal → Lexeme.isParenthesis c = false)) ∧
    (∃ gaps, gaps.length = tokens.length + 1 ∧ (∀ gap ∈ gaps, ∀ c ∈ gap, isBlank c = true) ∧
      text.toList = interleave gaps (tokens.map fun token => token.text.toList)) ∧
    tokens.length ≤ text.length := by
  have lexing := tokenize_eq_ok_iff.mp h
  refine ⟨?_, lexing.pairwise_apart, ?_, ?_, lexing.exists_gaps rfl, lexing.length_le⟩
  · intro token member
    have hstands := lexing.standsIn token member
    exact ⟨(lexing.isLexeme token member).text_ne_empty, hstands.le_offset, hstands.slice_eq⟩
  · intro index c hc huncovered
    exact lexing.isBlank_of_uncovered rfl hc (by simpa using huncovered)
  · intro token member hstring c hc
    obtain ⟨cls, hkind, hword⟩ := (lexing.isLexeme token member).isWord
    have hplain := hword.plain (by simpa [hkind] using hstring) c hc
    simpa [hkind] using hplain

/-- Tokens with nothing between them, and a string that holds a parenthesis and a blank. -/
theorem tokenize_layout_unspaced :
    let text := "\u3000(5abc\"a )\"\n"
    let tokens : List Token := [⟨.lexical .literal, "(", 1⟩, ⟨.lexical .int, "5", 2⟩,
      ⟨.lexical .id, "abc", 3⟩, ⟨.lexical .string, "\"a )\"", 6⟩]
    tokenize text = .ok tokens ∧
      ∃ gaps, gaps.length = tokens.length + 1 ∧ (∀ gap ∈ gaps, ∀ c ∈ gap, isBlank c = true) ∧
        text.toList = interleave gaps (tokens.map fun token => token.text.toList) := by
  intro text tokens
  have htext : text.toList =
      ['\u3000', '(', '5', 'a', 'b', 'c', '"', 'a', ' ', ')', '"', '\n'] := by simp [text]
  have h : tokenize text = .ok tokens := by
    rw [tokenize_eq_ok_iff, htext]
    refine .blank rfl ?_
    refine @Lexing.cut _ _ ⟨.literal, ['(']⟩ _ _ rfl ?_
    refine @Lexing.cut _ _ ⟨.int, ['5']⟩ _ _ rfl ?_
    refine @Lexing.cut _ _ ⟨.id, ['a', 'b', 'c']⟩ _ _ rfl ?_
    refine @Lexing.cut _ _ ⟨.string, ['"', 'a', ' ', ')', '"']⟩ _ _ rfl ?_
    exact .blank rfl .finished
  obtain ⟨-, -, -, -, hgaps, -⟩ := tokenize_layout h
  exact ⟨h, hgaps⟩

end Sexpr
