import Sexpr.Decimal.Text
import Sexpr.Files.Path
import Sexpr.Text.Quoted

/-!
Records: what the program says about its work, each with a severity and the name of the logger that
made it. The machine adds where and when that was.
-/

namespace Sexpr

/-- How grave a record is: the graver, the greater its rank. Five ranks have a grade of their own,
but any rank can be given; the lowest stands for a severity that was not set. -/
structure Severity where
  rank : Nat
  deriving DecidableEq

namespace Severity

def unset : Severity := ⟨0⟩

def debug : Severity := ⟨10⟩

def info : Severity := ⟨20⟩

def warning : Severity := ⟨30⟩

def error : Severity := ⟨40⟩

def critical : Severity := ⟨50⟩

def name (severity : Severity) : String :=
  match severity.rank with
  | 0 => "NOTSET"
  | 10 => "DEBUG"
  | 20 => "INFO"
  | 30 => "WARNING"
  | 40 => "ERROR"
  | 50 => "CRITICAL"
  | rank => "Level " ++ toString rank

/-- The least severity that is written. Verbose wins over quiet. -/
def threshold (verbose quiet : Bool) : Severity :=
  if verbose then .debug else if quiet then .error else .warning

end Severity

inductive Argument where
  | number (value : Int)
  | text (value : String)
  deriving DecidableEq

namespace Argument

def plain : Argument → String
  | .number value => toString value
  | .text value => value

def quoted : Argument → String
  | .number value => toString value
  | .text value => Text.quoted value

/-- Arguments between parentheses. A single one has a comma behind it. -/
def listing : List Argument → String
  | [only] => "(" ++ only.quoted ++ ",)"
  | arguments => "(" ++ ", ".intercalate (arguments.map quoted) ++ ")"

end Argument

/-- One entry of the journal. Its message is written as a template with a mark for each argument. -/
structure Record where
  logger : String
  severity : Severity
  template : String
  arguments : List Argument
  deriving DecidableEq

/-- A measured number: a finite double, `mantissa` times a power of two with a sign. -/
structure Measure where
  negative : Bool
  mantissa : Nat
  exponent : Int
  deriving DecidableEq

namespace Measure

def ratio (measure : Measure) : Nat × Nat :=
  let (up, down) := Binary64.power 2 measure.exponent
  (measure.mantissa * up, down)

def whole (measure : Measure) : Nat :=
  measure.ratio.1 / measure.ratio.2

def render (measure : Measure) : String :=
  (Binary64.finite measure.negative measure.mantissa measure.exponent).render

end Measure

/-- What a mark stands for: a text, a number, or something else that has only a listing. -/
inductive FieldValue where
  | text (value : String)
  | number (value : Nat)
  | measure (value : Measure)
  | other (listing : String)
  deriving DecidableEq

def FieldValue.listing : FieldValue → String
  | .text value => Text.quoted value
  | .number value => toString value
  | .measure value => value.render
  | .other listing => listing

/-- Where and when a record was made: the line of the program, the time, in seconds since the epoch,
in milliseconds since the last second and since the start, and as a clock shows it, the thread and
the process, and what else the machine or the caller adds under names of its own. -/
structure Circumstances where
  path : String
  line : Nat
  function : String
  created : Measure
  millis : Measure
  elapsed : Measure
  clock : String
  thread : Nat
  threadName : String
  process : Nat
  processName : String
  more : List (String × FieldValue)
  deriving DecidableEq

namespace Circumstances

def file (site : Circumstances) : String :=
  (Path.names site.path).getLastD ""

/-- The file without its extension. Dots at the front of a name start none. -/
def stem (site : Circumstances) : String :=
  match site.file.toList.reverse.dropWhile (· ≠ '.') with
  | _ :: front => if front.all (· == '.') then site.file else String.ofList front.reverse
  | [] => site.file

/-- The main thread of a program that says nothing of itself, at the epoch. -/
def unknown : Circumstances :=
  ⟨"", 0, "", ⟨false, 0, 0⟩, ⟨false, 0, 0⟩, ⟨false, 0, 0⟩, "1970-01-01 00:00:00,000", 0,
    "MainThread", 0, "MainProcess", []⟩

end Circumstances

namespace Record

def ofMessage (logger : String) (severity : Severity) (message : String) : Record :=
  ⟨logger, severity, message, []⟩

/-- A template with its marks, two characters each, replaced by arguments. -/
def filled : (template : List Char) → List Argument → List Char
  | '%' :: _ :: rest, argument :: arguments =>
    argument.plain.toList ++ filled rest arguments
  | c :: rest, arguments => c :: filled rest arguments
  | [], _ => []

/-- The template filled in. Without arguments it is taken as it is. -/
def message (entry : Record) : String :=
  String.ofList (filled entry.template.toList entry.arguments)

end Record

end Sexpr
