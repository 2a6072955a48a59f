import Sexpr.Symbol
import Sexpr.Text.Character

/-!
Lexemes: the word at the front of a text and its class. Each class has a reader that takes the
longest word of the class; the readers are asked in a fixed order and the first that finds a word
decides. Reals are asked before integers, so that no real is cut at its point.
-/

namespace Sexpr

structure Lexeme where
  cls : TokenClass
  word : List Char
  deriving DecidableEq

namespace Lexeme

def isParenthesis (c : Char) : Bool :=
  c == '(' || c == ')'

/-- The characters of identifiers: all but blanks, quotes and parentheses. -/
def isIdChar (c : Char) : Bool :=
  !(Text.isBlank c || c == '"' || isParenthesis c)

def splitSign : List Char → List Char × List Char
  | '+' :: rest => (['+'], rest)
  | '-' :: rest => (['-'], rest)
  | rest => ([], rest)

def literal? : List Char → Option (List Char)
  | c :: _ => if isParenthesis c then some [c] else none
  | [] => none

/-- A sign or none, any number of digits, a point, and at least one digit. -/
def real? (text : List Char) : Option (List Char) :=
  let (sign, unsigned) := splitSign text
  match unsigned.dropWhile Char.isDigit with
  | '.' :: rest =>
    match rest.takeWhile Char.isDigit with
    | [] => none
    | fraction => some (sign ++ unsigned.takeWhile Char.isDigit ++ '.' :: fraction)
  | _ => none

/-- A sign or none and at least one digit. -/
def int? (text : List Char) : Option (List Char) :=
  let (sign, unsigned) := splitSign text
  match unsigned.takeWhile Char.isDigit with
  | [] => none
  | digits => some (sign ++ digits)

/-- What is left of a string behind its opening quote, up to and with the closing one. A backslash
takes the next character with it, which must not be a line feed. -/
def stringRest? : List Char → Option (List Char)
  | [] => none
  | '"' :: _ => some ['"']
  | '\\' :: c :: rest =>
    if c = '\n' then none else (stringRest? rest).map ('\\' :: c :: ·)
  | c :: rest => if c = '\\' then none else (stringRest? rest).map (c :: ·)

def string? : List Char → Option (List Char)
  | '"' :: rest => (stringRest? rest).map ('"' :: ·)
  | _ => none

def id? (text : List Char) : Option (List Char) :=
  match text.takeWhile isIdChar with
  | [] => none
  | word => some word

def first? (text : List Char) : Option Lexeme :=
  (literal? text).map (⟨.literal, ·⟩) <|>
  (real? text).map (⟨.real, ·⟩) <|>
  (int? text).map (⟨.int, ·⟩) <|>
  (string? text).map (⟨.string, ·⟩) <|>
  (id? text).map (⟨.id, ·⟩)

theorem literal?_ne_nil {text word : List Char} (h : literal? text = some word) : word ≠ [] := by
  unfold literal? at h
  grind

theorem real?_ne_nil {text word : List Char} (h : real? text = some word) : word ≠ [] := by
  rintro rfl
  unfold real? at h
  grind [List.append_eq_nil_iff]

theorem int?_ne_nil {text word : List Char} (h : int? text = some word) : word ≠ [] := by
  rintro rfl
  unfold int? at h
  grind [List.append_eq_nil_iff]

theorem string?_ne_nil {text word : List Char} (h : string? text = some word) : word ≠ [] := by
  rintro rfl
  unfold string? at h
  split at h <;> simp at h

theorem id?_ne_nil {text word : List Char} (h : id? text = some word) : word ≠ [] := by
  unfold id? at h
  grind

/-- A lexeme holds at least one character. -/
theorem word_ne_nil {text : List Char} {lexeme : Lexeme} (h : first? text = some lexeme) :
    lexeme.word ≠ [] := by
  simp only [first?, Option.orElse_eq_orElse, Option.orElse_eq_or, Option.or_eq_some_iff,
    Option.map_eq_some_iff, Option.map_eq_none_iff] at h
  rcases h with ⟨_, hw, rfl⟩ | ⟨-, h⟩
  · exact literal?_ne_nil hw
  rcases h with ⟨_, hw, rfl⟩ | ⟨-, h⟩
  · exact real?_ne_nil hw
  rcases h with ⟨_, hw, rfl⟩ | ⟨-, h⟩
  · exact int?_ne_nil hw
  rcases h with ⟨_, hw, rfl⟩ | ⟨-, _, hw, rfl⟩
  · exact string?_ne_nil hw
  · exact id?_ne_nil hw

end Lexeme

end Sexpr
