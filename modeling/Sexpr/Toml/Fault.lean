import Sexpr.Breakdown
import Sexpr.Position

/-!
Why a text is no TOML document, or one beyond what is read, and at which place of it.
-/

namespace Sexpr.Toml

abbrev KeyPath : Type := List String

inductive Cause where
  | noStatement
  | noLineEnd
  | noTableEnd
  | noArrayOfTablesEnd
  | noKey
  | noEquals
  | noValue
  | noDay
  | unclosedArray
  | unclosedInlineTable
  | unclosedText
  | illegalCharacter (c : Char)
  | unknownEscape
  | noHexDigits
  | noCharacter
  | declaredTwice (key : KeyPath)
  | immutable (key : KeyPath)
  | redefined (key : KeyPath)
  | overwritten
  | duplicate (name : String)
  | longInteger (digits : Nat)
  | deepNesting
  deriving DecidableEq

/-- A cause, and how many characters were still to be read. -/
structure Fault where
  cause : Cause
  unread : Nat
  deriving DecidableEq

def Cause.message : Cause → String
  | .noStatement => "Invalid statement"
  | .noLineEnd => "Expected newline or end of document after a statement"
  | .noTableEnd => "Expected ']' at the end of a table declaration"
  | .noArrayOfTablesEnd => "Expected ']]' at the end of an array declaration"
  | .noKey => "Invalid initial character for a key part"
  | .noEquals => "Expected '=' after a key in a key/value pair"
  | .noValue => "Invalid value"
  | .noDay => "Invalid date or datetime"
  | .unclosedArray => "Unclosed array"
  | .unclosedInlineTable => "Unclosed inline table"
  | .unclosedText => "Unterminated string"
  | .illegalCharacter c => "Illegal character " ++ Text.quoted (String.singleton c)
  | .unknownEscape => "Unescaped '\\' in a string"
  | .noHexDigits => "Invalid hex value"
  | .noCharacter => "Escaped character is not a Unicode scalar value"
  | .declaredTwice key => "Cannot declare " ++ ".".intercalate key ++ " twice"
  | .immutable key => "Cannot mutate immutable namespace " ++ ".".intercalate key
  | .redefined key => "Cannot redefine namespace " ++ ".".intercalate key
  | .overwritten => "Cannot overwrite a value"
  | .duplicate name => "Duplicate inline table key " ++ Text.quoted name
  | .longInteger digits => "Integer of " ++ toString digits ++ " digits"
  | .deepNesting => "Values nested too deeply"

/-- What a limit that the document meets breaks down at. The other causes are faults of the
document. -/
def Cause.breakdown? : Cause → Option Breakdown
  | .longInteger digits => some (.longNumeral digits)
  | .deepNesting => some .deepNesting
  | _ => none

def Fault.message (document : List Char) (fault : Fault) : String :=
  let place :=
    if fault.unread = 0 then "end of document"
    else
      let position := Text.Position.after (document.take (document.length - fault.unread))
      "line " ++ toString position.line ++ ", column " ++ toString position.column
  fault.cause.message ++ " (at " ++ place ++ ")"

/-- Refuses the text at the place where `unread` is left of it. -/
def refuse {α : Type} (cause : Cause) (unread : List Char) : Except Fault α :=
  .error ⟨cause, unread.length⟩

end Sexpr.Toml
