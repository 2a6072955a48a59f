import Sexpr.Proofs.Token.Layout

/-!
Texts behind one another. No lexeme leads over a blank, so a text that is put behind another one
with blanks between them is scanned as if it stood alone, but for the offset at which it starts.
-/

namespace Sexpr

open Text (isBlank)

def Token.moved (move : Int → Int) (token : Token) : Token :=
  { token with offset := move token.offset }

namespace Lexing

variable {offset : Nat} {text : List Char} {tokens : List Token} {fault : Option Nat}

/-- A text that starts later has the same tokens, all of them later. -/
theorem moved (lexing : Lexing offset text tokens fault) (shift : Nat) :
    Lexing (offset + shift) text (tokens.map (Token.moved (· + shift)))
      (fault.map (· + shift)) := by
  induction lexing with
  | finished => exact .finished
  | @blank offset c text tokens fault hblank hrest ih =>
      rw [Nat.add_right_comm] at ih
      exact .blank hblank ih
  | @token offset cls word text tokens fault hlexeme hrest ih =>
      rw [Nat.add_right_comm] at ih
      have h := Lexing.token hlexeme ih
      rw [Int.natCast_add] at h
      exact h
  | stuck hblank hlexeme => exact .stuck hblank hlexeme

theorem blanks {gap : List Char} (hgap : ∀ c ∈ gap, isBlank c = true)
    (lexing : Lexing (offset + gap.length) text tokens fault) :
    Lexing offset (gap ++ text) tokens fault := by
  induction gap generalizing offset with
  | nil => exact lexing
  | cons c gap ih =>
      rw [List.forall_mem_cons] at hgap
      rw [List.length_cons, Nat.add_comm gap.length, ← Nat.add_assoc] at lexing
      exact .blank hgap.1 (ih hgap.2 lexing)

/-- A text behind one that has no fault is scanned where the first one ends. -/
theorem append {rest : List Char} {others : List Token} {stop : Option Nat}
    (lexing : Lexing offset text tokens fault) (hfault : fault = none)
    (hbreaks : Lexeme.Breaks rest) (hrest : Lexing (offset + text.length) rest others stop) :
    Lexing offset (text ++ rest) (tokens ++ others) stop := by
  induction lexing with
  | finished => exact hrest
  | stuck => cases hfault
  | @blank offset c text tokens fault hblank hback ih =>
      rw [List.length_cons, Nat.add_comm text.length, ← Nat.add_assoc] at hrest
      exact .blank hblank (ih hfault hrest)
  | @token offset cls word text tokens fault hlexeme hback ih =>
      rw [List.length_append, ← Nat.add_assoc] at hrest
      have hlonger := Lexeme.first?_append_breaks hlexeme hbreaks
      rw [List.append_assoc] at hlonger
      rw [List.append_assoc]
      exact .token hlonger (ih hfault hrest)

/-- With blanks between two texts the tokens of the second one follow those of the first one. -/
theorem seam {front gap back : List Char} {others : List Token}
    (hfront : Lexing 0 front tokens none) (hgap : ∀ c ∈ gap, isBlank c = true) (hne : gap ≠ [])
    (hback : Lexing 0 back others fault) :
    Lexing 0 (front ++ (gap ++ back))
      (tokens ++ others.map (Token.moved (· + ((front.length + gap.length : Nat) : Int))))
      (fault.map (· + (front.length + gap.length))) := by
  obtain ⟨c, gap', rfl⟩ := List.exists_cons_of_ne_nil hne
  have hbreaks : Lexeme.Breaks (c :: gap' ++ back) :=
    Lexeme.breaks_of_blank (hgap c List.mem_cons_self) _
  refine hfront.append rfl hbreaks (blanks hgap ?_)
  have hmoved := hback.moved (front.length + (c :: gap').length)
  rw [Nat.zero_add] at hmoved ⊢
  exact hmoved

end Lexing

end Sexpr
