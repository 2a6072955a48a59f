import Sexpr.Text.Quoted

/-!
Reports: what a reader is told about a problem. A report has a message, labelled details and
suggestions, and one written form.
-/

namespace Sexpr

inductive Detail where
  | text (value : String)
  | number (value : Int)
  | flag (value : Bool)
  | missing
  deriving DecidableEq

def Detail.render : Detail → String
  | .text value => value
  | .number value => toString value
  | .flag true => "True"
  | .flag false => "False"
  | .missing => "None"

/-- A message, its details in order of their labels' first use, and suggestions. -/
structure Report where
  message : String
  context : List (String × Detail)
  suggestions : List String
  deriving DecidableEq

namespace Report

def ofMessage (message : String) : Report :=
  ⟨message, [], []⟩

/-- Adds a detail behind the others. A detail that is already there under the label stays, and
nothing is added where there is no detail to add. -/
def note (report : Report) (label : String) (detail : Option Detail) : Report :=
  match detail with
  | none => report
  | some value =>
    if report.context.any (·.1 == label) then report
    else { report with context := report.context ++ [(label, value)] }

/-- The front of a text as a report shows it: quoted, and cut behind 20 characters. -/
def excerpt (text : String) : String :=
  if text.length ≤ 20 then Text.quoted text
  else Text.quoted (String.ofList (text.toList.take 20) ++ "...")

/-- The details of a problem at a place in a text, of which `remaining` is still unread. -/
def atPlace (report : Report) (offset : Int) (line column : Option Int) (remaining : String) :
    Report :=
  let placed := ((report.note "offset" (some (.number offset))).note "line"
    (line.map .number)).note "column" (column.map .number)
  placed.note "near" (if remaining.isEmpty then none else some (.text (excerpt remaining)))

def ofMismatch (report : Report) (expected found : Option String) (offset : Option Int) : Report :=
  ((report.note "expected" (expected.map (.text ∘ Text.quoted))).note "found"
    (found.map .text)).note "offset" (offset.map .number)

/-- The file that a problem is about. The empty name stands for no file. -/
def inFile (report : Report) (file : Option String) : Report :=
  report.note "file" ((file.filter (· ≠ "")).map .text)

def atByte (report : Report) (offset : Option Int) : Report :=
  report.note "byte offset" (offset.map .number)

/-- The message, then the details and the suggestions, each under a heading unless there are
none. -/
def render (report : Report) : String :=
  let context := if report.context.isEmpty then "" else
    "\n\nContext:" ++ String.join (report.context.map fun (label, detail) =>
      "\n  " ++ label ++ ": " ++ detail.render)
  let suggestions := if report.suggestions.isEmpty then "" else
    "\n\nSuggestions:" ++ String.join (report.suggestions.map ("\n  - " ++ ·))
  report.message ++ context ++ suggestions

end Report

end Sexpr
