/-!
Lines: their ends, and texts filled up with spaces to a given number of characters. A text that is
already as wide stays as it is.
-/

namespace Sexpr.Text

def unifyLineEnds : List Char → List Char
  | '\r' :: '\n' :: rest => '\n' :: unifyLineEnds rest
  | '\r' :: rest => '\n' :: unifyLineEnds rest
  | c :: rest => c :: unifyLineEnds rest
  | [] => []

def spaces (n : Nat) : String :=
  String.ofList (List.replicate n ' ')

def padRight (width : Nat) (text : String) : String :=
  text ++ spaces (width - text.length)

def padLeft (width : Nat) (text : String) : String :=
  spaces (width - text.length) ++ text

/-- Spaces on both sides. Where the room is odd, the right side gets the space left over. -/
def center (width : Nat) (text : String) : String :=
  padRight width (spaces ((width - text.length) / 2) ++ text)

/-- The texts, each closed by a line feed. -/
def unlines (lines : List String) : String :=
  String.join (lines.map (· ++ "\n"))

end Sexpr.Text
