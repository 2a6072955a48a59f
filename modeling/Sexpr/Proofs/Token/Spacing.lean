import Sexpr.Proofs.Token.Seams

/-!
Words put down with other gaps. The tokens of a text can be written with any blanks before, between
and behind them and are found again where they were put. Only words that would grow together need a
blank between them; parentheses and strings never do.
-/

namespace Sexpr

open Text (isBlank)

/-- The token ends by itself, and so does what stands before it. -/
def Token.IsClosed (token : Token) : Prop :=
  token.kind = .lexical .literal ∨ token.kind = .lexical .string

/-- Two tokens have a blank between them, or one of them is closed. -/
def Spaced (gaps : List (List Char)) (tokens : List Token) : Prop :=
  ∀ (index : Nat) (left right : Token), tokens[index]? = some left →
    tokens[index + 1]? = some right → gaps[index + 1]? = some [] →
    left.IsClosed ∨ right.IsClosed

theorem Spaced.tail {gap : List Char} {gaps : List (List Char)} {token : Token}
    {tokens : List Token} (h : Spaced (gap :: gaps) (token :: tokens)) : Spaced gaps tokens :=
  fun index left right hleft hright hgap => h (index + 1) left right hleft hright hgap

/-- No identifier goes on into a parenthesis or a string. -/
theorem Token.IsClosed.breaks {token : Token} (hclosed : token.IsClosed) (hlexeme : token.IsLexeme)
    (rest : List Char) : Lexeme.Breaks (token.text.toList ++ rest) := by
  obtain ⟨cls, hkind, hword⟩ := hlexeme.isWord
  obtain ⟨c, tail, hchars⟩ := List.exists_cons_of_ne_nil hword.ne_nil
  rw [hchars] at hword ⊢
  have hcls : ¬(cls ≠ .literal ∧ cls ≠ .string) := by
    rw [IsClosed, hkind, Symbol.lexical.injEq, Symbol.lexical.injEq] at hclosed
    rcases hclosed with rfl | rfl <;> simp
  have hc : Lexeme.isIdChar c = false := by
    rw [← Bool.not_eq_true, hword.isIdChar_head_iff]
    exact hcls
  intro d hd
  cases hd
  exact hc

/-- What stands behind a token does not make it longer. -/
theorem Spaced.bound {gap : List Char} {gaps : List (List Char)} {token : Token}
    {tokens : List Token} (h : Spaced (gap :: gaps) (token :: tokens))
    (hlength : gaps.length = tokens.length + 1)
    (hblank : ∀ gap ∈ gaps, ∀ c ∈ gap, isBlank c = true)
    (hlexemes : ∀ token ∈ tokens, token.IsLexeme) :
    token.IsClosed ∨
      Lexeme.Breaks (interleave gaps (tokens.map fun token => token.text.toList)) := by
  obtain ⟨next, gaps, rfl⟩ := List.exists_cons_of_length_eq_add_one hlength
  cases next with
  | cons c next =>
      rw [interleave_cons_gap]
      have hc := hblank _ List.mem_cons_self c List.mem_cons_self
      exact .inr (Lexeme.breaks_of_blank hc _)
  | nil =>
      cases tokens with
      | nil =>
          obtain rfl : gaps = [] := by simpa using hlength
          exact .inr Lexeme.breaks_nil
      | cons right tokens =>
          rcases h 0 token right rfl rfl rfl with hclosed | hclosed
          · exact .inl hclosed
          · exact .inr (hclosed.breaks (hlexemes right List.mem_cons_self) _)

/-- Lexemes with blanks around them are cut apart again, each where it was put. -/
theorem Lexing.exists_interleaved {words : List Token} {gaps : List (List Char)}
    (hwords : ∀ word ∈ words, word.IsLexeme) (hlength : gaps.length = words.length + 1)
    (hblank : ∀ gap ∈ gaps, ∀ c ∈ gap, isBlank c = true) (hspaced : Spaced gaps words)
    (offset : Nat) :
    ∃ tokens, Lexing offset (interleave gaps (words.map fun word => word.text.toList)) tokens none ∧
      tokens.map Token.content = words.map Token.content ∧
      ∀ (index : Nat) (token : Token), tokens[index]? = some token →
        token.offset = (offset + (interleave (gaps.take (index + 1))
          ((words.take index).map fun word => word.text.toList)).length : Nat) := by
  induction words generalizing gaps offset with
  | nil =>
      obtain ⟨gap, rfl⟩ := List.length_eq_one_iff.mp hlength
      rw [List.forall_mem_singleton] at hblank
      refine ⟨[], ?_, rfl, by simp⟩
      have h := Lexing.blanks hblank (@Lexing.finished (offset + gap.length))
      simpa [interleave] using h
  | cons word words ih =>
      obtain ⟨gap, gaps, rfl⟩ := List.exists_cons_of_length_eq_add_one hlength
      rw [List.forall_mem_cons] at hwords hblank
      rw [List.length_cons, List.length_cons, Nat.add_right_cancel_iff] at hlength
      obtain ⟨⟨cls, hkind, hfirst⟩, hothers⟩ := hwords
      obtain ⟨tokens, lexing, hcontents, hoffsets⟩ := ih hothers hlength hblank.2 hspaced.tail
        (offset + gap.length + word.text.toList.length)
      have hbound : cls = .literal ∨ cls = .string ∨
          Lexeme.Breaks (interleave gaps (words.map fun word => word.text.toList)) := by
        have h := hspaced.bound hlength hblank.2 hothers
        rw [Token.IsClosed, hkind, or_assoc] at h
        simpa using h
      have hword := Lexing.lexeme hfirst hbound lexing
      rw [String.ofList_toList] at hword
      refine ⟨_, Lexing.blanks hblank.1 hword, ?_, ?_⟩
      · rw [List.map_cons, List.map_cons, hcontents, Token.content, Token.content, hkind]
      · intro index token htoken
        cases index with
        | zero =>
            cases htoken
            simp [interleave]
        | succ index =>
            rw [hoffsets index token htoken]
            simp [interleave]
            omega

/-- Layout does not matter. The tokens of a text, written in their order with blanks around them
that keep apart what would grow together, are found again, each where it was put. -/
theorem tokenize_interleave {text : String} {tokens : List Token} (h : tokenize text = .ok tokens)
    (gaps : List (List Char)) (hlength : gaps.length = tokens.length + 1)
    (hblank : ∀ gap ∈ gaps, ∀ c ∈ gap, isBlank c = true) (hspaced : Spaced gaps tokens) :
    ∃ placed, tokenize (String.ofList (interleave gaps
        (tokens.map fun token => token.text.toList))) = .ok placed ∧
      placed.map Token.content = tokens.map Token.content ∧
      ∀ (index : Nat) (token : Token), placed[index]? = some token →
        token.offset = (interleave (gaps.take (index + 1))
          ((tokens.take index).map fun token => token.text.toList)).length := by
  have hlexemes := (tokenize_eq_ok_iff.mp h).isLexeme
  obtain ⟨placed, lexing, hcontents, hoffsets⟩ :=
    Lexing.exists_interleaved hlexemes hlength hblank hspaced 0
  refine ⟨placed, tokenize_eq_ok_iff.mpr ?_, hcontents, fun index token htoken => ?_⟩
  · rw [String.toList_ofList]
    exact lexing
  · rw [hoffsets index token htoken, Nat.zero_add]

/-- An integer and an identifier that stood side by side need a blank between them now, while the
parenthesis and the string behind them move together. -/
theorem tokenize_interleave_crowded :
    let tokens : List Token := [⟨.lexical .int, "5", 0⟩, ⟨.lexical .id, "abc", 1⟩,
      ⟨.lexical .literal, "(", 5⟩, ⟨.lexical .string, "\"x\"", 7⟩]
    let gaps : List (List Char) := [['\u00a0'], ['\n'], [], [], []]
    tokenize "5abc ( \"x\"" = .ok tokens ∧ Spaced gaps tokens ∧
      ∃ placed, tokenize "\u00a05\nabc(\"x\"" = .ok placed ∧
        placed.map Token.content = tokens.map Token.content ∧
        ∀ token, placed[3]? = some token → token.offset = 7 := by
  intro tokens gaps
  have h : tokenize "5abc ( \"x\"" = .ok tokens := by
    rw [tokenize_eq_ok_iff, show "5abc ( \"x\"".toList =
      ['5', 'a', 'b', 'c', ' ', '(', ' ', '"', 'x', '"'] by simp]
    refine @Lexing.cut _ _ ⟨.int, ['5']⟩ _ _ rfl ?_
    refine @Lexing.cut _ _ ⟨.id, ['a', 'b', 'c']⟩ _ _ rfl (.blank rfl ?_)
    refine @Lexing.cut _ _ ⟨.literal, ['(']⟩ _ _ rfl (.blank rfl ?_)
    exact @Lexing.cut _ _ ⟨.string, ['"', 'x', '"']⟩ _ _ rfl .finished
  have hspaced : Spaced gaps tokens := by
    intro index left right hleft hright hgap
    match index with
    | 0 => cases hgap
    | 1 =>
        cases hright
        exact .inr (.inl rfl)
    | 2 =>
        cases hleft
        exact .inl (.inl rfl)
    | index + 3 => cases hright
  have hblank : ∀ gap ∈ gaps, ∀ c ∈ gap, isBlank c = true := by
    refine List.forall_mem_cons.mpr ⟨List.forall_mem_singleton.mpr rfl, ?_⟩
    refine List.forall_mem_cons.mpr ⟨List.forall_mem_singleton.mpr rfl, ?_⟩
    simp
  obtain ⟨placed, hplaced, hcontents, hoffsets⟩ :=
    tokenize_interleave h gaps rfl hblank hspaced
  have htext : String.ofList (interleave gaps (tokens.map fun token => token.text.toList)) =
      "\u00a05\nabc(\"x\"" := by decide
  rw [htext] at hplaced
  exact ⟨h, hspaced, placed, hplaced, hcontents, hoffsets 3⟩

end Sexpr
