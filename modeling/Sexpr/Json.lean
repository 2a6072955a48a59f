import Sexpr.Text.Character
import Sexpr.Text.Lines

/-!
JSON documents and their indented text, which is plain ASCII.
-/

namespace Sexpr

inductive Json where
  | text (value : String)
  | number (value : Int)
  | array (items : List Json)
  | object (members : List (String × Json))

namespace Json

def unitEscape (unit : Nat) : List Char :=
  '\\' :: 'u' :: Text.hexDigits 4 unit

/-- One character inside a JSON string. Only printing ASCII stands as it is; a character beyond
16 bits becomes a pair of escapes. -/
def escapeChar (c : Char) : List Char :=
  if c = '"' ∨ c = '\\' then ['\\', c]
  else if c = '\n' then ['\\', 'n']
  else if c = '\r' then ['\\', 'r']
  else if c = '\t' then ['\\', 't']
  else if c = '\x08' then ['\\', 'b']
  else if c = '\x0c' then ['\\', 'f']
  else if ' ' ≤ c ∧ c ≤ '~' then [c]
  else if c.toNat < 0x10000 then unitEscape c.toNat
  else unitEscape (0xd800 + (c.toNat - 0x10000) / 0x400) ++
    unitEscape (0xdc00 + (c.toNat - 0x10000) % 0x400)

def quote (text : String) : String :=
  String.ofList ('"' :: text.toList.flatMap escapeChar ++ ['"'])

/-- The line break before something that stands `depth` levels deep. -/
def lineBreak (indent depth : Nat) : String :=
  "\n" ++ Text.spaces (indent * depth)

mutual
/-- The text of a document whose lines inside stand `depth` levels deep. An empty array or object
takes no lines of its own. -/
def render (indent depth : Nat) : Json → String
  | .text value => quote value
  | .number value => toString value
  | .array [] => "[]"
  | .array (item :: items) =>
    "[" ++ lineBreak indent (depth + 1) ++ render indent (depth + 1) item ++
      renderItems indent depth items ++ lineBreak indent depth ++ "]"
  | .object [] => "\x7b\x7d"
  | .object ((key, value) :: members) =>
    "\x7b" ++ lineBreak indent (depth + 1) ++ quote key ++ ": " ++
      render indent (depth + 1) value ++ renderMembers indent depth members ++
      lineBreak indent depth ++ "\x7d"

def renderItems (indent depth : Nat) : List Json → String
  | [] => ""
  | item :: items =>
    "," ++ lineBreak indent (depth + 1) ++ render indent (depth + 1) item ++
      renderItems indent depth items

def renderMembers (indent depth : Nat) : List (String × Json) → String
  | [] => ""
  | (key, value) :: members =>
    "," ++ lineBreak indent (depth + 1) ++ quote key ++ ": " ++ render indent (depth + 1) value ++
      renderMembers indent depth members
end

end Json

end Sexpr
