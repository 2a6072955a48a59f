import Sexpr.Token.Scan

/-!
Scanners: one text that several readers consume together. The readers share the place up to which
the text is read, so each token goes to exactly one of them. A reader that met the end of the text
or a fault has ended and stays so, even when the place moves back, until it is restarted.

The place may be moved before the text, to a negative offset. What is read there is the front of the
text, over and over, as if it stood at the place; blanks at the front lead into the text.
-/

namespace Sexpr

/-- A text, the offset up to which it is read, and the readers that have ended. -/
structure Scanner where
  text : List Char
  offset : Int
  ended : List Int

/-- Why a scanner cannot read on: no lexeme starts at its place, there is no character that could be
blamed, or the offset is no index, so that nothing can be looked for there. -/
inductive ScanFault where
  | lexing (cause : LexFault)
  | nothingThere (cause : IndexFault)
  | noPlace
  deriving DecidableEq

inductive Pull where
  | token (token : Token)
  | finished
  | fault (fault : ScanFault)

namespace Scanner

def ofText (text : String) : Scanner :=
  ⟨text.toList, 0, []⟩

def unread (scanner : Scanner) : List Char :=
  scanner.text.drop scanner.offset.toNat

def seek (scanner : Scanner) (offset : Int) : Scanner :=
  { scanner with offset }

/-- Lets an ended reader ask again. -/
def restart (scanner : Scanner) (reader : Int) : Scanner :=
  { scanner with ended := scanner.ended.filter (· ≠ reader) }

def endReader (scanner : Scanner) (reader : Int) (offset : Int) : Scanner :=
  { scanner with offset, ended := reader :: scanner.ended }

/-- The token that starts exactly at the current place, which does not move. -/
def peek (scanner : Scanner) : Except ScanFault (Option Token) :=
  if Index.isIndex scanner.offset then
    .ok ((Lexeme.first? scanner.unread).map fun lexeme =>
      ⟨.lexical lexeme.cls, String.ofList lexeme.word, scanner.offset⟩)
  else .error .noPlace

def faultAt (scanner : Scanner) (index : Int) : ScanFault :=
  match LexFault.ofIndex scanner.text index with
  | .ok cause => .lexing cause
  | .error cause => .nothingThere cause

def faultHere (scanner : Scanner) : ScanFault :=
  scanner.faultAt scanner.offset

/-- Whether the place is before the text, and no blank at its front leads into it. -/
def isBefore (scanner : Scanner) : Bool :=
  scanner.offset < 0 && !(Index.isIndex scanner.offset && scanner.text.head?.any Text.isBlank)

def pullInside (scanner : Scanner) (reader : Int) : Pull × Scanner :=
  match next scanner.offset.toNat scanner.unread with
  | .finished stop => (.finished, scanner.endReader reader stop)
  | .token found stop _ => (.token found, scanner.seek stop)
  | .stuck stop => (.fault (scanner.faultAt stop), scanner.endReader reader stop)

/-- Gives the reader the next token and moves behind it. At a fault the place stays before what
cannot be read. -/
def pull (scanner : Scanner) (reader : Int) : Pull × Scanner :=
  if scanner.ended.contains reader then (.finished, scanner)
  else if scanner.isBefore then
    match scanner.peek with
    | .ok (some found) => (.token found, scanner.seek found.endOffset)
    | .ok none => (.fault scanner.faultHere, scanner.endReader reader scanner.offset)
    | .error fault => (.fault fault, scanner.endReader reader scanner.offset)
  else scanner.pullInside reader

/-- The copies of a token that stand one behind the other from its place before the text up to the
start of the text, or beyond it. -/
def copies (token : Token) : List Token :=
  let length := token.text.length
  (List.range ((token.offset.natAbs + length - 1) / length)).map fun count =>
    { token with offset := token.offset + (count * length : Nat) }

def drainInside (scanner : Scanner) : Except ScanFault (List Token) × Scanner :=
  let offset := scanner.offset.toNat
  match scan offset scanner.unread with
  | (tokens, none) => (.ok tokens, scanner.seek (max offset scanner.text.length : Nat))
  | (_, some stop) => (.error (scanner.faultAt stop), scanner.seek stop)

/-- All tokens that are left, as a reader of its own gets them. -/
def drain (scanner : Scanner) : Except ScanFault (List Token) × Scanner :=
  if scanner.isBefore then
    match scanner.peek with
    | .error fault => (.error fault, scanner)
    | .ok none => (.error scanner.faultHere, scanner)
    | .ok (some found) =>
      let before := copies found
      let (result, last) := (scanner.seek (Token.endOf before)).drainInside
      (result.map (before ++ ·), last)
  else scanner.drainInside

end Scanner

end Sexpr
