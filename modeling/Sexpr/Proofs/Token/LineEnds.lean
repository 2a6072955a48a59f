import Sexpr.Proofs.Token.Lexing
import Sexpr.Text.Lines

/-!
Line ends between tokens. When every line end of a text is made a line feed, returns vanish or turn
into line feeds, and both are blanks: as long as no return stands in a string the words of the text
stay what they are and none of them grows into what follows it. Only the places of the tokens
change.
-/

namespace Sexpr

open Text (isBlank unifyLineEnds)

namespace Text

theorem unifyLineEnds_cons {c : Char} (h : c ≠ '\r') (rest : List Char) :
    unifyLineEnds (c :: rest) = c :: unifyLineEnds rest := by
  rw [unifyLineEnds]
  all_goals
    intros
    contradiction

/-- A return in front of a line feed is dropped. -/
theorem unifyLineEnds_pair (rest : List Char) :
    unifyLineEnds ('\r' :: '\n' :: rest) = unifyLineEnds ('\n' :: rest) := by
  rw [unifyLineEnds, unifyLineEnds_cons (by decide)]

/-- Every other return becomes a line feed. -/
theorem unifyLineEnds_return {rest : List Char} (h : rest.head? ≠ some '\n') :
    unifyLineEnds ('\r' :: rest) = '\n' :: unifyLineEnds rest := by
  rw [unifyLineEnds]
  rintro tail rfl
  exact h rfl

theorem unifyLineEnds_append {word : List Char} (h : '\r' ∉ word) (rest : List Char) :
    unifyLineEnds (word ++ rest) = word ++ unifyLineEnds rest := by
  induction word with
  | nil => rfl
  | cons c word ih =>
      rw [List.mem_cons, not_or] at h
      rw [List.cons_append, unifyLineEnds_cons (Ne.symm h.1), ih h.2, List.cons_append]

/-- What is no line end stands in the text as it was. -/
theorem front_of_unifyLineEnds {word rest : List Char} (hline : '\n' ∉ word)
    (hfront : word <+: unifyLineEnds rest) : word <+: rest := by
  induction word generalizing rest with
  | nil => exact List.nil_prefix
  | cons c word ih =>
      rw [List.mem_cons, not_or] at hline
      cases rest with
      | nil => exact hfront
      | cons d rest =>
          by_cases hreturn : d = '\r'
          · exfalso
            subst hreturn
            by_cases hnext : rest.head? = some '\n'
            · obtain ⟨tail, rfl⟩ := List.head?_eq_some_iff.mp hnext
              rw [unifyLineEnds_pair, unifyLineEnds_cons (by decide)] at hfront
              exact hline.1 (List.cons_prefix_cons.mp hfront).1.symm
            · rw [unifyLineEnds_return hnext] at hfront
              exact hline.1 (List.cons_prefix_cons.mp hfront).1.symm
          · rw [unifyLineEnds_cons hreturn, List.cons_prefix_cons] at hfront
            exact List.cons_prefix_cons.mpr ⟨hfront.1, ih hline.2 hfront.2⟩

end Text

namespace Lexeme

/-- Where line ends are made line feeds behind a word, no longer word appears in its place. -/
theorem IsWord.front_of_unifyLineEnds {own cls : TokenClass} {word other rest : List Char}
    (hword : IsWord own word) (hother : IsWord cls other)
    (hfront : other <+: word ++ unifyLineEnds rest) : other <+: word ++ rest := by
  by_cases hown : own = .literal ∨ own = .string
  · exact (hword.prefix_of_closed hother hown hfront).trans (List.prefix_append word rest)
  rcases List.prefix_or_prefix_of_prefix hfront (List.prefix_append word _) with h | h
  · exact h.trans (List.prefix_append word rest)
  obtain ⟨more, rfl⟩ := h
  have hmore : more <+: unifyLineEnds rest := (List.prefix_append_right_inj word).mp hfront
  -- The longer word starts as the other one does, so it holds no line feed.
  have hline : '\n' ∉ more := by
    obtain ⟨first, tail, rfl⟩ := List.exists_cons_of_ne_nil hword.ne_nil
    have hfirst := hword.isIdChar_head_iff.mpr (not_or.mp hown)
    have hchars := hother.isIdChar_iff.mpr ((IsWord.isIdChar_head_iff hother).mp hfirst)
    intro hmem
    exact absurd (hchars '\n' (List.mem_append_right _ hmem)) (by decide)
  exact (List.prefix_append_right_inj word).mpr (Text.front_of_unifyLineEnds hline hmore)

theorem first?_unifyLineEnds {cls : TokenClass} {word rest : List Char}
    (h : first? (word ++ rest) = some ⟨cls, word⟩) :
    first? (word ++ unifyLineEnds rest) = some ⟨cls, word⟩ :=
  first?_of_fronts h (List.prefix_append word _) fun _ _ hother hfront =>
    (isWord_of_first? h).1.front_of_unifyLineEnds hother hfront

end Lexeme

/-- A text with one kind of line end has the tokens of the text with any, apart from their
places. -/
theorem Lexing.unifyLineEnds {offset : Nat} {text : List Char} {tokens : List Token}
    {fault : Option Nat} (lexing : Lexing offset text tokens fault) (hfault : fault = none)
    (hstrings : ∀ token ∈ tokens, token.kind = .lexical .string → '\r' ∉ token.text.toList)
    (start : Nat) :
    ∃ tokens', Lexing start (Text.unifyLineEnds text) tokens' none ∧
      tokens'.map Token.content = tokens.map Token.content := by
  induction lexing generalizing start with
  | finished => exact ⟨[], .finished, rfl⟩
  | stuck => cases hfault
  | @blank offset c text tokens fault hblank hrest ih =>
      by_cases hreturn : c = '\r'
      · subst hreturn
        by_cases hnext : text.head? = some '\n'
        · obtain ⟨tail, rfl⟩ := List.head?_eq_some_iff.mp hnext
          rw [Text.unifyLineEnds_pair]
          exact ih hfault hstrings start
        · obtain ⟨tokens', lexing', hcontent⟩ := ih hfault hstrings (start + 1)
          rw [Text.unifyLineEnds_return hnext]
          exact ⟨tokens', .blank (by decide) lexing', hcontent⟩
      · obtain ⟨tokens', lexing', hcontent⟩ := ih hfault hstrings (start + 1)
        rw [Text.unifyLineEnds_cons hreturn]
        exact ⟨tokens', .blank hblank lexing', hcontent⟩
  | @token offset cls word text tokens fault hlexeme hrest ih =>
      rw [List.forall_mem_cons] at hstrings
      have hword : '\r' ∉ word := by
        by_cases hstring : cls = .string
        · have hreturn := hstrings.1 (congrArg Symbol.lexical hstring)
          rwa [String.toList_ofList] at hreturn
        · intro hmem
          have hplain := (Lexeme.isWord_of_first? hlexeme).1.plain hstring '\r' hmem
          exact absurd hplain.1 (by decide)
      obtain ⟨tokens', lexing', hcontent⟩ := ih hfault hstrings.2 (start + word.length)
      rw [Text.unifyLineEnds_append hword]
      refine ⟨_, .token (Lexeme.first?_unifyLineEnds hlexeme) lexing', ?_⟩
      rw [List.map_cons, List.map_cons, hcontent]
      rfl

end Sexpr
