import Sexpr.Toml.Item

/-!
TOML documents: statements, one a line, that fill the tables of one big table. A table header opens
the table into which the statements below it go. No table is opened twice by headers or widened
after it was finished as a value.
-/

namespace Sexpr.Toml

/-- A document that is being read: its table so far, the table that is open, the paths that no
header may open again, those that the statements of the open table add to them, and the paths
of values that are finished. -/
structure Draft where
  table : Table
  header : KeyPath
  opened : List KeyPath
  pending : List KeyPath
  finished : List KeyPath

namespace Draft

def empty : Draft :=
  ⟨[], [], [], [], []⟩

def openTable (draft : Draft) (path : KeyPath) (unread : List Char) : Except Fault Draft :=
  let opened := draft.pending ++ draft.opened
  if opened.contains path || isWithin draft.finished path then
    refuse (.declaredTwice path) unread
  else match draft.table.changeAt true (fun inner => some inner) path with
    | none => refuse .overwritten unread
    | some table => .ok ⟨table, path, path :: opened, [], draft.finished⟩

/-- Opens a further table of an array of tables. What was said about the paths below it was about
the one before. -/
def openItem (draft : Draft) (name : String) (names : KeyPath) (unread : List Char) :
    Except Fault Draft :=
  let path := name :: names
  let last := path.getLast (List.cons_ne_nil name names)
  let opened := draft.pending ++ draft.opened
  if isWithin draft.finished path then refuse (.immutable path) unread
  else match draft.table.changeAt true (Table.addItem last) path.dropLast with
    | none => refuse .overwritten unread
    | some table =>
      .ok ⟨table, path, path :: opened.filter (!path.isPrefixOf ·), [],
        draft.finished.filter (!path.isPrefixOf ·)⟩

/-- Adds an entry to the open table. The tables on the way of a dotted key must not be open to
headers, neither before nor after. -/
def add (draft : Draft) (name : String) (names : KeyPath) (value : Value) (unread : List Char) :
    Except Fault Draft :=
  let path := draft.header ++ name :: names
  let last := (name :: names).getLast (List.cons_ne_nil name names)
  let ways := (List.range names.length).map fun count =>
    draft.header ++ (name :: names).take (count + 1)
  match ways.find? draft.opened.contains with
  | some way => refuse (.redefined way) unread
  | none =>
    if isWithin draft.finished path.dropLast then refuse (.immutable path.dropLast) unread
    else match draft.table.changeAt true (Table.add last value) path.dropLast with
      | none => refuse .overwritten unread
      | some table =>
        .ok { draft with
          table := table
          pending := ways ++ draft.pending
          finished := if isCompound value then path :: draft.finished else draft.finished }

end Draft

def statement (limits : Limits) (draft : Draft) (text : List Char) :
    Except Fault (Draft × List Char) :=
  match text with
  | '[' :: '[' :: rest => do
    let ((name, names), rest) ← key (skipBlanks rest)
    let draft ← draft.openItem name names rest
    match rest with
    | ']' :: ']' :: rest => return (draft, rest)
    | _ => refuse .noArrayOfTablesEnd rest
  | '[' :: rest => do
    let ((name, names), rest) ← key (skipBlanks rest)
    let draft ← draft.openTable (name :: names) rest
    match rest with
    | ']' :: rest => return (draft, rest)
    | _ => refuse .noTableEnd rest
  | c :: rest =>
    if isBareKeyChar c || c == '"' || c == '\'' then do
      let (((name, names), value), rest) ←
        pair limits limits.nestingRoom (2 * rest.length + 4) (c :: rest)
      let draft ← draft.add name names value rest
      return (draft, rest)
    else if c == '#' then .ok (draft, c :: rest)
    else refuse .noStatement (c :: rest)
  | [] => .ok (draft, [])

/-- The lines of a document. Each takes at least its line feed. -/
def lines (limits : Limits) : (steps : Nat) → Draft → List Char → Except Fault Draft
  | 0, draft, _ => .ok draft
  | steps + 1, draft, text =>
    match skipBlanks text with
    | [] => .ok draft
    | '\n' :: rest => lines limits steps draft rest
    | text => do
      let (draft, rest) ← statement limits draft text
      let rest ← skipComment (skipBlanks rest)
      match rest with
      | [] => return draft
      | '\n' :: rest => lines limits steps draft rest
      | rest => refuse .noLineEnd rest

def unifyLineEnds : List Char → List Char
  | '\r' :: '\n' :: rest => '\n' :: unifyLineEnds rest
  | c :: rest => c :: unifyLineEnds rest
  | [] => []

def parse (limits : Limits) (text : List Char) : Except Fault Table :=
  let text := unifyLineEnds text
  (lines limits (text.length + 1) .empty text).map Draft.table

def explain (text : List Char) (fault : Fault) : String :=
  fault.message (unifyLineEnds text)

end Sexpr.Toml
