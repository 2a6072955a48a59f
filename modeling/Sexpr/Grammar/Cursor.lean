import Sexpr.Breakdown
import Sexpr.Grammar.Rules
import Sexpr.Position

/-!
Cursors: a token list with the place up to which it is read. Every rule of the grammar can be run
at the cursor, which then stands behind what the rule has read, also when the rule failed. A
negative place counts from the end of the list; what is read there leads on to its start.
-/

namespace Sexpr

/-- A token list, the place in it, and whether atoms are strict. -/
structure Cursor where
  tokens : List Token
  index : Int
  strict : Bool

/-- Why nothing can be read at a cursor: its place is none in the list, what is there is at fault,
or reading breaks down. -/
inductive CursorFault where
  | noPlace (cause : IndexFault)
  | parsing (cause : ParseFault)
  | broken (cause : Breakdown)
  deriving DecidableEq

namespace Cursor

def ofTokens (tokens : List Token) (strict : Bool) : Cursor :=
  ⟨tokens, 0, strict⟩

/-- The tokens from the cursor on. Before the list it has to stand at an index of the list. -/
def unread (cursor : Cursor) : Except IndexFault (List Token) :=
  if 0 ≤ cursor.index then .ok (cursor.tokens.drop cursor.index.toNat)
  else (Index.place cursor.tokens.length cursor.index).map fun place =>
    cursor.tokens.drop place ++ cursor.tokens

def mode (cursor : Cursor) : Mode :=
  ⟨cursor.strict, Token.endOf cursor.tokens⟩

def atEnd (cursor : Cursor) : Bool :=
  (cursor.tokens.length : Int) ≤ cursor.index

def peek (cursor : Cursor) : Except CursorFault (Option Token) :=
  match cursor.unread with
  | .ok tokens => .ok tokens.head?
  | .error cause => .error (.noPlace cause)

/-- The word at the cursor; the empty one behind the last token. -/
def peekText (cursor : Cursor) : Except CursorFault String :=
  cursor.peek.map fun
    | some token => token.text
    | none => ""

def seek (cursor : Cursor) (index : Int) : Cursor :=
  { cursor with index }

def advance (cursor : Cursor) : Except CursorFault Token × Cursor :=
  match cursor.peek with
  | .ok (some token) => (.ok token, cursor.seek (cursor.index + 1))
  | .ok none => (.error (.parsing (.rejected .noToken)), cursor)
  | .error fault => (.error fault, cursor)

def run {α : Type} (cursor : Cursor) (parse : Parse α) : Except CursorFault α × Cursor :=
  match cursor.unread with
  | .error cause => (.error (.noPlace cause), cursor)
  | .ok tokens =>
    let leaving (rest : List Token) : Cursor :=
      cursor.seek (cursor.index + (tokens.length - rest.length : Nat))
    match parse cursor.mode tokens with
    | .ok value rest => (.ok value, leaving rest)
    | .fault cause rest => (.error (.parsing cause), leaving rest)

def literal (cursor : Cursor) (word : String) : Except CursorFault Tree × Cursor :=
  cursor.run (Grammar.literal word)

/-- Runs a rule of the grammar by itself. Lists that nest too deeply break it down: they are a fault
only for `parse`, which notices it. -/
def rule (cursor : Cursor) (rule : Rule) : Except CursorFault Tree × Cursor :=
  match cursor.run (Grammar.procedure Grammar.nestingLimit rule) with
  | (.error (.parsing (.rejected (.tooDeep _))), after) => (.error (.broken .deepNesting), after)
  | outcome => outcome

def parse (cursor : Cursor) : Except CursorFault Tree × Cursor :=
  cursor.run (Grammar.program Grammar.nestingLimit)

end Cursor

end Sexpr
