import Sexpr.Files.Fault

/-!
Breakdowns: what ends the program without a report of its own, because a limit of the machine is
met or a file cannot be dealt with at all. Some of the limits are the same everywhere; the others
are what a machine leaves to the program at the time.
-/

namespace Sexpr

/-- The limits that differ from machine to machine. -/
structure Limits where
  /-- The length from which on a line does not fit into the memory. -/
  memory : Nat
  /-- How many levels a value may have in a message. -/
  shownLevels : Nat
  /-- How many levels of branches can be compared. -/
  comparedLevels : Nat
  /-- The room that the values of a settings file share. -/
  nestingRoom : Nat
  /-- The room that an array takes. -/
  arrayRoom : Nat
  /-- The room that an inline table takes. -/
  inlineRoom : Nat

/-- What a machine of a few gigabytes leaves. -/
def Limits.usual : Limits :=
  ⟨1073741824, 980, 240, 990, 2, 3⟩

inductive Breakdown where
  /-- A settings file holds bytes that are no text. -/
  | noText (offset : Nat)
  /-- A path cannot be looked up, or a directory cannot be made. -/
  | files (fault : OsFault) (path : Path)
  /-- A link leads back to itself. -/
  | linkLoop (path : Path)
  /-- A path that is to be resolved holds a null character, which no name can. -/
  | nullInPath (path : Path)
  /-- A decimal integer is read that has more digits than `digitLimit`. -/
  | longNumeral (digits : Nat)
  /-- An integer is shown that takes more digits than `digitLimit`. -/
  | longInteger
  /-- Values hold others more levels deep than can be followed. -/
  | deepNesting
  /-- A line is wider than any text can be. -/
  | tooWide
  /-- A line is wider than there is memory for. -/
  | outOfMemory
  /-- A table holds a text that is taken for markup, and is none. -/
  | noMarkup (text : String)
  /-- A leaf is asked for what only branches have. -/
  | leafAlone
  deriving DecidableEq

namespace Breakdown

def digitLimit : Nat := 4300

def textLimit : Nat := 9223372036854775807

def ofWidth? (limits : Limits) (width : Int) : Option Breakdown :=
  if (textLimit : Int) < width then some .tooWide
  else if (limits.memory : Int) ≤ width then some .outOfMemory
  else none

/-- What a run of spaces breaks down at, if at anything. A negative count makes none, as long as it
can be counted. -/
def ofSpaces? (limits : Limits) (count : Int) : Option Breakdown :=
  if count < -(textLimit : Int) - 1 then some .tooWide else ofWidth? limits count

def ofInteger? (value : Int) : Option Breakdown :=
  if value.natAbs < Nat.pow 10 digitLimit then none else some .longInteger

def message : Breakdown → String
  | .noText offset => "Config file is not valid UTF-8 at byte " ++ toString offset
  | .files fault path => fault.message path
  | .linkLoop path => "Symbolic links lead in a circle: " ++ path.render
  | .nullInPath path => "Null character in path: " ++ path.render
  | .longNumeral digits => "Integer of " ++ toString digits ++ " digits is too long"
  | .longInteger => "Integer is too long to be shown"
  | .deepNesting => "Values nested too deeply"
  | .tooWide | .outOfMemory => "Line too wide to be written"
  | .noMarkup text => "Wrong markup: " ++ text
  | .leafAlone => "A leaf is no tree"

end Breakdown

end Sexpr
