import Sexpr.Position
import Sexpr.Report
import Sexpr.Token
import Sexpr.Token.Lexeme

/-!
Scanning: a text is a run of lexemes with blanks before, between and behind them. `next` looks for
the next token, `scan` takes them all, and `tokenize` answers with the tokens or with the place
where no lexeme starts.
-/

namespace Sexpr

/-- The place where a text cannot be read on, and all that is unread there. A negative offset counts
from the end of the text, and so does the column with it. -/
structure LexFault where
  offset : Int
  line : Nat
  column : Int
  remaining : String
  deriving DecidableEq

namespace LexFault

def ofOffset (text : List Char) (offset : Nat) : LexFault :=
  let position := Text.Position.after (text.take offset)
  ⟨offset, position.line, position.column, String.ofList (text.drop offset)⟩

def beforeEnd (text : List Char) (count : Nat) : LexFault :=
  let fault := ofOffset text (text.length - count)
  { fault with offset := fault.offset - text.length, column := fault.column - text.length }

/-- The fault at an index, where there has to be a character. -/
def ofIndex (text : List Char) (index : Int) : Except IndexFault LexFault :=
  (Index.place text.length index).map fun place =>
    if 0 ≤ index then ofOffset text place else beforeEnd text index.natAbs

/-- Only a string can be at fault, so an opening quote is explained. -/
def suggestions (fault : LexFault) : List String :=
  if fault.remaining.toList.head? = some '"' then
    ["Check for an unterminated string literal"]
  else []

def report (fault : LexFault) : Report :=
  Report.atPlace
    ⟨"Unrecognized input at position " ++ toString fault.offset, [], fault.suggestions⟩
    fault.offset (some fault.line) (some fault.column) fault.remaining

end LexFault

/-- What follows at some place of a text: its end, a token with the offset and the text behind it,
or something that is no lexeme. -/
inductive Next where
  | finished (offset : Nat)
  | token (token : Token) (stop : Nat) (rest : List Char)
  | stuck (offset : Nat)

/-- Skips blanks, then takes one lexeme. The text starts at the given offset. -/
def next (offset : Nat) (text : List Char) : Next :=
  let start := offset + (text.takeWhile Text.isBlank).length
  let unread := text.dropWhile Text.isBlank
  if unread.isEmpty then .finished start
  else match Lexeme.first? unread with
    | none => .stuck start
    | some lexeme =>
      .token ⟨.lexical lexeme.cls, String.ofList lexeme.word, start⟩
        (start + lexeme.word.length) (unread.drop lexeme.word.length)

/-- A token takes at least one character off the text. -/
theorem next_shortens {offset stop : Nat} {text rest : List Char} {found : Token}
    (h : next offset text = .token found stop rest) : rest.length < text.length := by
  simp only [next] at h
  split at h
  · cases h
  · rename_i hne
    split at h
    · cases h
    · rename_i lexeme hlex
      cases h
      have hword := List.length_pos_iff.mpr (Lexeme.word_ne_nil hlex)
      have hunread : 0 < (text.dropWhile Text.isBlank).length :=
        List.length_pos_iff.mpr (by simpa using hne)
      have hle : (text.dropWhile Text.isBlank).length ≤ text.length :=
        (List.dropWhile_suffix _).length_le
      rw [List.length_drop]
      omega

/-- All tokens of a text that starts at an offset, and the offset where reading stopped short of
the end, if it did. -/
def scan (offset : Nat) (text : List Char) : List Token × Option Nat :=
  match h : next offset text with
  | .finished _ => ([], none)
  | .stuck stop => ([], some stop)
  | .token found stop rest =>
    have := next_shortens h
    let (tokens, fault) := scan stop rest
    (found :: tokens, fault)
termination_by text.length

def tokenize (text : String) : Except LexFault (List Token) :=
  match scan 0 text.toList with
  | (tokens, none) => .ok tokens
  | (_, some stop) => .error (.ofOffset text.toList stop)

end Sexpr
