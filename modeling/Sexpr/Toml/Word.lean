import Sexpr.Text.Character
import Sexpr.Toml.Fault

/-!
The words of a TOML document: blanks, comments, strings in their four spellings, and keys. Readers
that step through a text of unknown shape take a bound on their steps; the length of the text is
always enough.
-/

namespace Sexpr.Toml

def isBlank (c : Char) : Bool :=
  c == ' ' || c == '\t'

def skipBlanks (text : List Char) : List Char :=
  text.dropWhile isBlank

/-- Control characters have no place in a document, the tab excepted. -/
def isControl (c : Char) : Bool :=
  (c.toNat < 0x20 && c != '\t') || c.toNat == 0x7f

/-- Strings over several lines may also hold line feeds. -/
def isControlInLines (c : Char) : Bool :=
  isControl c && c != '\n'

def skipComment : List Char → Except Fault (List Char)
  | '#' :: rest =>
    let comment := rest.takeWhile (· ≠ '\n')
    match comment.find? isControl with
    | some c => refuse (.illegalCharacter c) (rest.dropWhile (!isControl ·))
    | none => .ok (rest.dropWhile (· ≠ '\n'))
  | rest => .ok rest

def skipLines : (steps : Nat) → List Char → Except Fault (List Char)
  | 0, text => .ok text
  | steps + 1, text =>
    match text.dropWhile fun c => isBlank c || c == '\n' with
    | '#' :: rest => do skipLines steps (← skipComment ('#' :: rest))
    | rest => .ok rest

def hexEscape (digits : Nat) (text : List Char) : Except Fault (Char × List Char) :=
  match (text.take digits).mapM Text.hexValue? with
  | none => refuse .noHexDigits text
  | some values =>
    if values.length < digits then refuse .noHexDigits text
    else
      let code := values.foldl (16 * · + ·) 0
      if code.isValidChar then .ok (Char.ofNat code, text.drop digits)
      else refuse .noCharacter (text.drop digits)

def escape : List Char → Except Fault (Char × List Char)
  | 'b' :: rest => .ok ('\x08', rest)
  | 't' :: rest => .ok ('\t', rest)
  | 'n' :: rest => .ok ('\n', rest)
  | 'f' :: rest => .ok ('\x0c', rest)
  | 'r' :: rest => .ok ('\r', rest)
  | '"' :: rest => .ok ('"', rest)
  | '\\' :: rest => .ok ('\\', rest)
  | 'u' :: rest => hexEscape 4 rest
  | 'U' :: rest => hexEscape 8 rest
  | text => refuse .unknownEscape (text.drop 1)

def basicRest : (steps : Nat) → List Char → Except Fault (List Char × List Char)
  | 0, text => refuse .unclosedText text
  | _, [] => refuse .unclosedText []
  | steps + 1, c :: rest =>
    if c = '"' then .ok ([], rest)
    else if c = '\\' then do
      let (escaped, rest) ← escape rest
      let (content, rest) ← basicRest steps rest
      return (escaped :: content, rest)
    else if isControl c then refuse (.illegalCharacter c) (c :: rest)
    else do
      let (content, rest) ← basicRest steps rest
      return (c :: content, rest)

/-- A backslash at the end of a line takes the blank start of the following lines with it. -/
def continueLine (text : List Char) : Except Fault (List Char) :=
  match skipBlanks text with
  | [] => .ok []
  | '\n' :: rest => .ok (rest.dropWhile fun c => isBlank c || c == '\n')
  | rest => refuse .unknownEscape rest

/-- Up to two quotes right behind the three closing ones still belong to the string. -/
def quotesBehind (quote : Char) (text : List Char) : List Char × List Char :=
  let more := (text.take 2).takeWhile (· == quote)
  (more, text.drop more.length)

def basicLinesRest : (steps : Nat) → List Char → Except Fault (List Char × List Char)
  | 0, text => refuse .unclosedText text
  | _, [] => refuse .unclosedText []
  | steps + 1, c :: rest =>
    if c = '"' ∧ rest.take 2 = ['"', '"'] then .ok (quotesBehind '"' (rest.drop 2))
    else if c = '\\' then
      match rest with
      | ' ' :: _ | '\t' :: _ | '\n' :: _ => do
        basicLinesRest steps (← continueLine rest)
      | _ => do
        let (escaped, rest) ← escape rest
        let (content, rest) ← basicLinesRest steps rest
        return (escaped :: content, rest)
    else if isControlInLines c then refuse (.illegalCharacter c) (c :: rest)
    else do
      let (content, rest) ← basicLinesRest steps rest
      return (c :: content, rest)

/-- The rest of a string between single quotes, in which nothing is escaped. -/
def literalRest : List Char → Except Fault (List Char × List Char)
  | [] => refuse .unclosedText []
  | c :: rest =>
    if c = '\'' then .ok ([], rest)
    else if isControl c then refuse (.illegalCharacter c) (c :: rest)
    else do
      let (content, rest) ← literalRest rest
      return (c :: content, rest)

def literalLinesRest : List Char → Except Fault (List Char × List Char)
  | [] => refuse .unclosedText []
  | c :: rest =>
    if c = '\'' ∧ rest.take 2 = ['\'', '\''] then .ok (quotesBehind '\'' (rest.drop 2))
    else if isControlInLines c then refuse (.illegalCharacter c) (c :: rest)
    else do
      let (content, rest) ← literalLinesRest rest
      return (c :: content, rest)

/-- A line feed right behind three opening quotes does not belong to the string. -/
def skipFirstLineEnd : List Char → List Char
  | '\n' :: rest => rest
  | rest => rest

def isBareKeyChar (c : Char) : Bool :=
  c.isAlphanum || c == '-' || c == '_'

def keyName : List Char → Except Fault (String × List Char)
  | '\'' :: rest => do
    let (content, rest) ← literalRest rest
    return (String.ofList content, rest)
  | '"' :: rest => do
    let (content, rest) ← basicRest (rest.length + 1) rest
    return (String.ofList content, rest)
  | text =>
    match text.takeWhile isBareKeyChar with
    | [] => refuse .noKey text
    | name => .ok (String.ofList name, text.dropWhile isBareKeyChar)

/-- The names of a key behind the first, each behind a dot. Blanks may stand around the dots. -/
def keyNames : (steps : Nat) → List Char → Except Fault (KeyPath × List Char)
  | 0, text => .ok ([], text)
  | steps + 1, text =>
    match skipBlanks text with
    | '.' :: rest => do
      let (name, rest) ← keyName (skipBlanks rest)
      let (names, rest) ← keyNames steps rest
      return (name :: names, rest)
    | rest => .ok ([], rest)

/-- A key of one name or more, and the blanks behind it: the first name apart from the others. -/
def key (text : List Char) : Except Fault ((String × KeyPath) × List Char) := do
  let (name, rest) ← keyName text
  let (names, rest) ← keyNames rest.length rest
  return ((name, names), skipBlanks rest)

end Sexpr.Toml
