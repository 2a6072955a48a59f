import Sexpr.Breakdown
import Sexpr.Text.Lines

/-!
The platform: what the program is given by the machine and by packages of others. Among these is the
drawing of tables. A plain one stands at hand: a column is as wide as its widest cell and has a
space on both sides, and there are lines around all. It knows no markup, and leaves tables alone
that hold any.
-/

namespace Sexpr

/-- A column of a table: its heading, whether its cells stand at the right, and their style. -/
structure TableColumn where
  heading : String
  atRight : Bool
  style : Option String

structure TextTable where
  title : String
  columns : List TableColumn
  rows : List (List String)

namespace TextTable

def cells (table : TextTable) (column : Nat) : List String :=
  table.rows.map (·.getD column "")

def widths (table : TextTable) : List (TableColumn × Nat) :=
  table.columns.zipIdx.map fun (column, number) =>
    (column, ((table.cells number).map String.length).foldl max column.heading.length)

/-- A line across the table: its left end, what it is drawn with, the joints, and its right end. -/
def ruleAcross (widths : List (TableColumn × Nat)) (left stroke joint right : String) : String :=
  left ++ joint.intercalate (widths.map fun (_, width) =>
    String.join (List.replicate (width + 2) stroke)) ++ right

def rowAcross (widths : List (TableColumn × Nat)) (bar : String) (cells : List String) : String :=
  bar ++ bar.intercalate ((widths.zip cells).map fun ((column, width), cell) =>
    " " ++ (if column.atRight then Text.padLeft width cell else Text.padRight width cell) ++
      " ") ++ bar

/-- Whether a text starts with something in square brackets that is taken for markup. -/
def startsTag : List Char → Bool
  | '[' :: c :: rest =>
    (c.isLower || c == '#' || c == '/' || c == '@') &&
      (rest.dropWhile fun c => c ≠ '[' && c ≠ ']').head? == some ']'
  | _ => false

def hasTag : List Char → Bool
  | [] => false
  | c :: rest => startsTag (c :: rest) || hasTag rest

def plain (table : TextTable) : Except Breakdown String :=
  match table.rows.flatten.find? (hasTag ·.toList) with
  | some cell => .error (.noMarkup cell)
  | none =>
    let widths := table.widths
    let top := ruleAcross widths "┏" "━" "┳" "┓"
    .ok (Text.unlines
      ([Text.center top.length table.title, top,
        rowAcross widths "┃" (table.columns.map TableColumn.heading),
        ruleAcross widths "┡" "━" "╇" "┩"] ++
      table.rows.map (rowAcross widths "│") ++
      [ruleAcross widths "└" "─" "┴" "┘"]))

end TextTable

/-- What the program is given. -/
structure Platform where
  limits : Limits
  drawTable : TextTable → Except Breakdown String
  /-- Two dashes that are written as the value of an option count as no value. -/
  dropsDashes : Bool

def Platform.plain : Platform :=
  ⟨.usual, TextTable.plain, true⟩

end Sexpr
