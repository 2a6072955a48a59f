import Sexpr.Proofs.Text.Lines
import Sexpr.Proofs.Token.Strings

/-!
The place of a fault. A text that cannot be scanned is at fault at a quote, and the fault names it
by its offset as well as by its line and column. Line feeds count as lines wherever they stand, also
in the strings that were scanned before the fault.
-/

namespace Sexpr

open Text (Position)

/-- The character at fault is an opening quote. -/
theorem exists_fault_eq {text : String} {fault : LexFault} (h : tokenize text = .error fault) :
    ∃ front rest, text.toList = front ++ '"' :: rest ∧
      fault = .ofOffset text.toList front.length := by
  obtain ⟨tokens, stop, lexing⟩ := exists_lexing 0 text.toList
  cases stop with
  | none =>
      rw [tokenize_eq_ok_iff.mpr lexing] at h
      cases h
  | some stop =>
      obtain ⟨front, rest, htext, hstop, -⟩ := lexing.before_fault rfl
      rw [Nat.zero_add] at hstop
      rw [(tokenize_eq_error lexing 0).1] at h
      cases h
      exact ⟨front, rest, htext, by rw [hstop]⟩

/-- The line and the column of a fault are a place in the lines of the text. A quote stands there,
so many characters behind the start of the text as the offset says, and this is true of no other
place. -/
theorem tokenize_fault_place {text : String} {fault : LexFault}
    (h : tokenize text = .error fault) :
    let lines := text.toList.splitOn '\n'
    ∃ (position : Position) (row : List Char),
      fault.line = position.line ∧ fault.column = position.column ∧
      (1 ≤ position.line ∧ position.line ≤ lines.length) ∧
      lines[position.line - 1]? = some row ∧
      (1 ≤ position.column ∧ position.column ≤ row.length) ∧
      (((lines.take (position.line - 1)).map fun line => line.length + 1).sum +
        (position.column - 1) : Nat) = fault.offset ∧
      row[position.column - 1]? = some '"' ∧ text.toList[fault.offset.toNat]? = some '"' ∧
      ∀ other : Position, other.Within lines →
        ((other.offset lines : Int) = fault.offset ↔ other = position) := by
  intro lines
  obtain ⟨front, rest, htext, rfl⟩ := exists_fault_eq h
  have hquote : '"' ≠ '\n' := by decide
  obtain ⟨hwithin, hoffset, row, hrow, hchar⟩ := Position.within_after hquote front rest
  have hlines : Text.lines (front ++ '"' :: rest) = lines := by
    rw [← htext]
    rfl
  rw [hlines] at hwithin hoffset hrow
  have hfront : text.toList.take front.length = front := by
    rw [htext, List.take_left]
  have hplace : LexFault.ofOffset text.toList front.length =
      ⟨front.length, (Position.after front).line, (Position.after front).column,
        String.ofList (text.toList.drop front.length)⟩ := by
    rw [LexFault.ofOffset, hfront]
  rw [hplace]
  refine ⟨Position.after front, row, rfl, rfl, ⟨hwithin.line_pos, hwithin.line_le⟩, hrow,
    ⟨hwithin.column_pos, hwithin.column_le row hrow⟩, congrArg Int.ofNat hoffset, hchar, ?_, ?_⟩
  · rw [Int.toNat_natCast, htext, List.getElem?_append_right (Nat.le_refl _), Nat.sub_self]
    rfl
  · intro other hother
    constructor
    · intro hsame
      apply hother.eq_of_offset_eq hwithin
      rw [hoffset]
      exact Int.ofNat.inj hsame
    · rintro rfl
      exact congrArg Int.ofNat hoffset

/-- A fault at the first column behind a string that spans two lines. -/
theorem tokenize_fault_place_multiline :
    let text := "\"a\nb\"\n\"c"
    let fault : LexFault := ⟨6, 3, 1, "\"c"⟩
    let lines := text.toList.splitOn '\n'
    tokenize text = .error fault ∧
      ∃ (position : Position) (row : List Char), fault.line = position.line ∧
        fault.column = position.column ∧ lines[position.line - 1]? = some row ∧
        (((lines.take (position.line - 1)).map fun line => line.length + 1).sum +
          (position.column - 1) : Nat) = fault.offset ∧
        row[position.column - 1]? = some '"' := by
  intro text fault lines
  have htext : text.toList = ['"', 'a', '\n', 'b', '"', '\n', '"', 'c'] := by simp [text]
  have lexing : Lexing 0 text.toList [⟨.lexical .string, "\"a\nb\"", 0⟩] (some 6) := by
    rw [htext]
    refine @Lexing.cut _ _ ⟨.string, ['"', 'a', '\n', 'b', '"']⟩ _ _ rfl ?_
    refine .blank rfl ?_
    exact .stuck rfl rfl
  have hfault : LexFault.ofOffset text.toList 6 = fault := by
    rw [htext]
    rfl
  have h : tokenize text = .error fault := by
    rw [(tokenize_eq_error lexing 0).1, hfault]
  obtain ⟨position, row, hline, hcolumn, -, hrow, -, hoffset, hquote, -⟩ :=
    tokenize_fault_place h
  exact ⟨h, position, row, hline, hcolumn, hrow, hoffset, hquote⟩

end Sexpr
