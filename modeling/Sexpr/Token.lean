import Sexpr.Symbol
import Sexpr.Text.Lines

/-!
Tokens: words of a text with their kind and the place where they stand.
-/

namespace Sexpr

/-- A word, its kind and the number of characters before it. A token list need not come from a
text, so nothing ties the kind to the word, and the offset is any integer. -/
structure Token where
  kind : Symbol
  text : String
  offset : Int
  deriving DecidableEq

namespace Token

def endOffset (token : Token) : Int :=
  token.offset + token.text.length

/-- The line that lists the token: its kind in a column of 21 characters, then its word. -/
def listing (token : Token) : String :=
  Text.padRight 21 token.kind.name ++ "\t: " ++ token.text

/-- The offset right behind the last token, or zero when there is none. -/
def endOf (tokens : List Token) : Int :=
  match tokens.getLast? with
  | some last => last.endOffset
  | none => 0

def atEnd (tokens : List Token) : Token :=
  ⟨.lexical .invalid, "", endOf tokens⟩

end Token

end Sexpr
