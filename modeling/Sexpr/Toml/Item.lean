import Sexpr.Toml.Moment
import Sexpr.Toml.Number
import Sexpr.Toml.Table
import Sexpr.Toml.Word

/-!
The values of a TOML document. A step into an array or an inline table is followed by one that takes
a character, so twice the length of the text bounds the steps. How deep values may lie in others is
limited by room, of which each level takes some.
-/

namespace Sexpr.Toml

def string? : List Char → Option (Except Fault (String × List Char))
  | '"' :: '"' :: '"' :: rest =>
    let rest := skipFirstLineEnd rest
    some ((basicLinesRest (rest.length + 1) rest).map fun (content, rest) =>
      (String.ofList content, rest))
  | '"' :: rest =>
    some ((basicRest (rest.length + 1) rest).map fun (content, rest) =>
      (String.ofList content, rest))
  | '\'' :: '\'' :: '\'' :: rest =>
    some ((literalLinesRest (skipFirstLineEnd rest)).map fun (content, rest) =>
      (String.ofList content, rest))
  | '\'' :: rest =>
    some ((literalRest rest).map fun (content, rest) => (String.ofList content, rest))
  | _ => none

def scalar (text : List Char) : Except Fault (Value × List Char) :=
  match string? text with
  | some read => read.map fun (content, rest) => (.text content, rest)
  | none =>
    match text with
    | 't' :: 'r' :: 'u' :: 'e' :: rest => .ok (.flag true, rest)
    | 'f' :: 'a' :: 'l' :: 's' :: 'e' :: rest => .ok (.flag false, rest)
    | _ =>
      match moment? text with
      | some read => read.map fun (moment, rest) => (.moment moment, rest)
      | none =>
        match number? text with
        | some read => read
        | none => refuse .noValue text

/-- An inline table so far, and the paths of the compound values in it. -/
structure Inline where
  table : Table
  finished : List KeyPath

def Inline.add (inline : Inline) (name : String) (names : KeyPath) (value : Value)
    (unread : List Char) : Except Fault Inline :=
  let path := name :: names
  let last := path.getLast (List.cons_ne_nil name names)
  if isWithin inline.finished path then refuse (.immutable path) unread
  else match inline.table.changeAt false (fun inner => some inner) path.dropLast with
    | none => refuse .overwritten unread
    | some _ =>
      match inline.table.changeAt false (Table.add last value) path.dropLast with
      | none => refuse (.duplicate last) unread
      | some table =>
        .ok ⟨table, if isCompound value then path :: inline.finished else inline.finished⟩

mutual
/-- Any value, with so much room left for others in it. -/
def item (limits : Limits) (room : Nat) :
    (steps : Nat) → List Char → Except Fault (Value × List Char)
  | 0, text => refuse .noValue text
  | steps + 1, '[' :: rest =>
    if room < limits.arrayRoom then refuse .deepNesting rest
    else do
      let rest ← skipLines rest.length rest
      match rest with
      | ']' :: rest => return (.array [], rest)
      | _ =>
        let (items, rest) ← arrayItems limits (room - limits.arrayRoom) steps rest
        return (.array items, rest)
  | steps + 1, '\x7b' :: rest =>
    if room < limits.inlineRoom then refuse .deepNesting rest
    else match skipBlanks rest with
      | '\x7d' :: rest => .ok (.table [], rest)
      | rest => do
        let (table, rest) ← inlineEntries limits (room - limits.inlineRoom) steps ⟨[], []⟩ rest
        return (.table table, rest)
  | _ + 1, text => scalar text

/-- The items of an array up to its end. A comma may stand behind the last one. -/
def arrayItems (limits : Limits) (room : Nat) :
    (steps : Nat) → List Char → Except Fault (List Value × List Char)
  | 0, text => refuse .unclosedArray text
  | steps + 1, text => do
    let (first, rest) ← item limits room steps text
    let rest ← skipLines rest.length rest
    match rest with
    | ']' :: rest => return ([first], rest)
    | ',' :: rest =>
      let rest ← skipLines rest.length rest
      match rest with
      | ']' :: rest => return ([first], rest)
      | _ =>
        let (items, rest) ← arrayItems limits room steps rest
        return (first :: items, rest)
    | _ => refuse .unclosedArray rest

def pair (limits : Limits) (room : Nat) :
    (steps : Nat) → List Char → Except Fault (((String × KeyPath) × Value) × List Char)
  | 0, text => refuse .noValue text
  | steps + 1, text => do
    let (path, rest) ← key text
    match rest with
    | '=' :: rest =>
      let (value, rest) ← item limits room steps (skipBlanks rest)
      return ((path, value), rest)
    | _ => refuse .noEquals rest

/-- The entries of an inline table up to its end. No comma may stand behind the last one. -/
def inlineEntries (limits : Limits) (room : Nat) :
    (steps : Nat) → Inline → List Char → Except Fault (Table × List Char)
  | 0, _, text => refuse .unclosedInlineTable text
  | steps + 1, inline, text => do
    let (((name, names), value), rest) ← pair limits room steps text
    let inline ← inline.add name names value rest
    match skipBlanks rest with
    | '\x7d' :: rest => return (inline.table, rest)
    | ',' :: rest => inlineEntries limits room steps inline (skipBlanks rest)
    | rest => refuse .unclosedInlineTable rest
end

end Sexpr.Toml
