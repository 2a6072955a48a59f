import Sexpr.Journal.Layout

/-!
Layouts that never fail. A mark suits its subject if the conversion can write whatever records hold
there. A layout in which all marks do so is written with every record, whatever the circumstances.
-/

namespace Sexpr

variable {site : Circumstances} {entry : Record} {field : Field} {style : Numeral} {mark : Mark}
  {piece : Piece} {layout : Layout}

namespace Field

def isWhole : Field → Bool
  | .rank | .line | .thread | .process => true
  | _ => false

def isMeasured : Field → Bool
  | .created | .millis | .elapsed => true
  | _ => false

end Field

namespace Numeral

def isWhole : Numeral → Bool
  | .decimal | .octal | .hexadecimal _ => true
  | .fixed | .exponent _ | .general _ => false

end Numeral

namespace Mark

/-- A conversion writes whatever records hold at a subject. -/
inductive Suits : Subject → Conversion → Prop
  | plain {subject : Subject} (hheld : ∀ name, subject ≠ .besides name) : Suits subject .plain
  | quoted {subject : Subject} (hheld : ∀ name, subject ≠ .besides name) : Suits subject .quoted
  | ascii {subject : Subject} (hheld : ∀ name, subject ≠ .besides name) : Suits subject .ascii
  | whole {field : Field} {style : Numeral} (hfield : field.isWhole = true)
      (hstyle : style.isWhole = true) : Suits (.field field) (.numeral style)
  | truncated {field : Field} (hfield : field.isMeasured = true) :
      Suits (.field field) (.numeral .decimal)
  | fraction {field : Field} {style : Numeral} (hfield : field.isMeasured = true)
      (hstyle : style.isWhole = false) : Suits (.field field) (.numeral style)

end Mark

inductive Piece.IsSure : Piece → Prop
  | text (value : Char) : IsSure (.text value)
  | field {mark : Mark} (hsuits : Mark.Suits mark.subject mark.conversion) : IsSure (.field mark)

/-- A layout that is written with every record. -/
def Layout.IsSure (layout : Layout) : Prop :=
  ∀ piece ∈ layout, piece.IsSure

/-- The layout of the command line never fails. -/
theorem Layout.standard_isSure : Layout.standard.IsSure := by
  have hplain (field : Field) : (plain field).IsSure := .field (.plain nofun)
  simp only [IsSure, standard, List.forall_mem_cons]
  exact ⟨.text _, hplain _, .text _, .text _, hplain _, nofun⟩

end Sexpr
