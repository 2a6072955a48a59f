import Mathlib.Algebra.GroupWithZero.Nat
import Mathlib.Data.List.Induction
import Sexpr.Position
import Sexpr.Text.Lines

/-!
Lines. A text is cut at its line feeds, and a place in it is a line and a column in that line. Going
along a text character by character, `Position.after` is the place in these lines where the next
character stands; and no two places with a character in them are equally far from the start.
-/

namespace Sexpr.Text

def lines (text : List Char) : List (List Char) :=
  text.splitOn '\n'

/-- How many characters precede a line, with the line feeds of the lines before it. The lines are
counted from 0 here. -/
def lineStart (lines : List (List Char)) (line : Nat) : Nat :=
  ((lines.take line).map fun line => line.length + 1).sum

theorem lines_feed (text : List Char) : lines ('\n' :: text) = [] :: lines text := by
  rw [lines, List.splitOn_eq_splitOnP, List.splitOnP_cons_eq_if_modifyHead, if_pos (by simp)]
  rfl

theorem lines_cons {c : Char} (h : c ≠ '\n') (text : List Char) :
    lines (c :: text) = (lines text).modifyHead (c :: ·) := by
  rw [lines, List.splitOn_eq_splitOnP, List.splitOnP_cons_eq_if_modifyHead,
    if_neg (by simpa using h)]
  rfl

theorem exists_lines_eq_cons (text : List Char) : ∃ first others, lines text = first :: others := by
  apply List.exists_cons_of_ne_nil
  rw [lines, List.splitOn_eq_splitOnP]
  exact List.splitOnP_ne_nil _ text

/-- There is one line more than there are line feeds. -/
theorem length_lines (text : List Char) : (lines text).length = text.count '\n' + 1 := by
  induction text with
  | nil => rfl
  | cons c text ih =>
      by_cases h : c = '\n'
      · subst h
        rw [lines_feed, List.length_cons, ih, List.count_cons_self]
      · rw [lines_cons h, List.length_modifyHead, ih, List.count_cons_of_ne h]

@[simp] theorem unlines_nil : unlines [] = "" := rfl

theorem unlines_cons (line : String) (lines : List String) :
    unlines (line :: lines) = line ++ ("\n" ++ unlines lines) := by
  simp [unlines, String.join_cons, String.append_assoc]

theorem unlines_append (front back : List String) :
    unlines (front ++ back) = unlines front ++ unlines back := by
  induction front with
  | nil => simp
  | cons line front ih => simp only [List.cons_append, unlines_cons, ih, String.append_assoc]

theorem intercalate_append_break {lines : List String} (h : lines ≠ []) :
    "\n".intercalate lines ++ "\n" = unlines lines := by
  induction lines with
  | nil => exact absurd rfl h
  | cons line rest ih =>
    cases rest with
    | nil => simp [unlines]
    | cons second rest =>
      rw [String.intercalate_cons_cons, unlines_cons, ← ih (List.cons_ne_nil _ _)]
      simp only [String.append_assoc]

/-- Every line is closed by a line feed, and those inside the lines are line feeds as well. -/
theorem count_unlines (lines : List String) :
    (unlines lines).toList.count '\n' =
      lines.length + (lines.map fun line => line.toList.count '\n').sum := by
  induction lines with
  | nil => rfl
  | cons line rest ih =>
      have hfeed : "\n".toList.count '\n' = 1 := rfl
      rw [unlines_cons, String.toList_append, String.toList_append, List.count_append,
        List.count_append, hfeed, ih, List.length_cons, List.map_cons, List.sum_cons]
      omega

theorem lineStart_succ {lines : List (List Char)} {index : Nat} {line : List Char}
    (h : lines[index]? = some line) :
    lineStart lines (index + 1) = lineStart lines index + (line.length + 1) := by
  rw [lineStart, lineStart, List.take_add_one, h, List.map_append, List.sum_append]
  rfl

theorem lineStart_mono (lines : List (List Char)) {index later : Nat} (h : index ≤ later) :
    lineStart lines index ≤ lineStart lines later := by
  induction h with
  | refl => exact Nat.le_refl _
  | @step later _ ih =>
      apply Nat.le_trans ih
      rw [lineStart, lineStart, List.take_add_one, List.map_append, List.sum_append]
      exact Nat.le_add_right _ _

namespace Position

variable {lines : List (List Char)} {position other : Position}

def offset (lines : List (List Char)) (position : Position) : Nat :=
  lineStart lines (position.line - 1) + (position.column - 1)

structure Within (lines : List (List Char)) (position : Position) : Prop where
  line_pos : 1 ≤ position.line
  line_le : position.line ≤ lines.length
  column_pos : 1 ≤ position.column
  column_le : ∀ line, lines[position.line - 1]? = some line → position.column ≤ line.length

theorem Within.offset_lt (hposition : position.Within lines) (h : position.line < other.line) :
    position.offset lines < other.offset lines := by
  obtain ⟨hpos, hle, hcolumn, hwithin⟩ := hposition
  have hless : position.line - 1 < lines.length := by omega
  obtain ⟨line, hline⟩ : ∃ line, lines[position.line - 1]? = some line :=
    ⟨_, List.getElem?_eq_getElem hless⟩
  have hwidth := hwithin line hline
  calc
    position.offset lines
      = lineStart lines (position.line - 1) + (position.column - 1) := rfl
    _ < lineStart lines (position.line - 1) + (line.length + 1) := by omega
    _ = lineStart lines (position.line - 1 + 1) := (lineStart_succ hline).symm
    _ ≤ lineStart lines (other.line - 1) := lineStart_mono lines (by omega)
    _ ≤ other.offset lines := Nat.le_add_right _ _

/-- A place is known from how many characters precede it. -/
theorem Within.eq_of_offset_eq (hposition : position.Within lines) (hother : other.Within lines)
    (h : position.offset lines = other.offset lines) : position = other := by
  have hline : position.line = other.line := by
    rcases Nat.lt_trichotomy position.line other.line with hless | heq | hless
    · have hbefore := hposition.offset_lt hless
      omega
    · exact heq
    · have hbefore := hother.offset_lt hless
      omega
  have hcolumn : position.column = other.column := by
    have hleft := hposition.column_pos
    have hright := hother.column_pos
    rw [offset, offset, hline] at h
    omega
  cases position
  cases other
  exact congrArg₂ Position.mk hline hcolumn

theorem after_nil : after [] = ⟨1, 1⟩ := rfl

theorem after_feed (before : List Char) :
    after (before ++ ['\n']) = ⟨(after before).line + 1, 1⟩ := by
  simp [after]

theorem after_char {c : Char} (h : c ≠ '\n') (before : List Char) :
    after (before ++ [c]) = ⟨(after before).line, (after before).column + 1⟩ := by
  simp [after, h]

/-- A stretch of text is some whole lines, and then a piece of a line that goes on with whatever is
behind the stretch. The place behind it is behind these lines and this piece. -/
theorem exists_lines_append (before : List Char) :
    ∃ previous piece, after before = ⟨previous.length + 1, piece.length + 1⟩ ∧
      lineStart previous previous.length + piece.length = before.length ∧
      ∀ rest, Text.lines (before ++ rest) =
        previous ++ (Text.lines rest).modifyHead (piece ++ ·) := by
  -- From the end: a line feed there closes the piece, any other character makes it longer.
  induction before using List.reverseRecOn with
  | nil =>
      refine ⟨[], [], after_nil, rfl, ?_⟩
      intro rest
      obtain ⟨first, others, hrest⟩ := exists_lines_eq_cons rest
      rw [List.nil_append, hrest]
      rfl
  | append_singleton before c ih =>
      obtain ⟨previous, piece, hafter, hlength, hlines⟩ := ih
      by_cases hc : c = '\n'
      · subst hc
        refine ⟨previous ++ [piece], [], ?_, ?_, ?_⟩
        · rw [after_feed, hafter, List.length_append]
          rfl
        · rw [lineStart, List.take_length] at hlength ⊢
          rw [List.map_append, List.sum_append, List.length_append, ← hlength]
          rfl
        · intro rest
          obtain ⟨first, others, hrest⟩ := exists_lines_eq_cons rest
          rw [List.append_assoc, List.singleton_append, hlines, lines_feed, hrest]
          simp
      · refine ⟨previous, piece ++ [c], ?_, ?_, ?_⟩
        · rw [after_char hc, hafter, List.length_append]
          rfl
        · rw [List.length_append, List.length_append, ← hlength]
          rfl
        · intro rest
          obtain ⟨first, others, hrest⟩ := exists_lines_eq_cons rest
          rw [List.append_assoc, List.singleton_append, hlines, lines_cons hc, hrest]
          simp

/-- The place behind a stretch of text is where the next character stands. -/
theorem within_after {c : Char} (hc : c ≠ '\n') (before rest : List Char) :
    (after before).Within (Text.lines (before ++ c :: rest)) ∧
      (after before).offset (Text.lines (before ++ c :: rest)) = before.length ∧
      ∃ row, (Text.lines (before ++ c :: rest))[(after before).line - 1]? = some row ∧
        row[(after before).column - 1]? = some c := by
  obtain ⟨previous, piece, hafter, hlength, hlines⟩ := exists_lines_append before
  obtain ⟨first, others, hrest⟩ := exists_lines_eq_cons rest
  have hwhole : Text.lines (before ++ c :: rest) = previous ++ (piece ++ c :: first) :: others := by
    rw [hlines, lines_cons hc, hrest]
    rfl
  have hline : (previous ++ (piece ++ c :: first) :: others)[previous.length]? =
      some (piece ++ c :: first) := by
    rw [List.getElem?_append_right (Nat.le_refl _), Nat.sub_self]
    rfl
  rw [hwhole, hafter]
  refine ⟨⟨?_, ?_, ?_, ?_⟩, ?_, ?_⟩
  · exact Nat.le_add_left 1 _
  · rw [List.length_append, List.length_cons]
    exact Nat.add_le_add_left (Nat.le_add_left 1 _) _
  · exact Nat.le_add_left 1 _
  · intro line hfound
    rw [Nat.add_sub_cancel, hline] at hfound
    cases hfound
    rw [List.length_append, List.length_cons]
    exact Nat.add_le_add_left (Nat.le_add_left 1 _) _
  · rw [offset, Nat.add_sub_cancel, Nat.add_sub_cancel, ← hlength, lineStart, lineStart,
      List.take_left, List.take_length]
  · refine ⟨piece ++ c :: first, ?_, ?_⟩
    · rw [Nat.add_sub_cancel]
      exact hline
    · rw [Nat.add_sub_cancel, List.getElem?_append_right (Nat.le_refl _), Nat.sub_self]
      rfl

end Position

end Sexpr.Text
