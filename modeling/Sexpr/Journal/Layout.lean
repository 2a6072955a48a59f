import Sexpr.Journal.Numeral
import Sexpr.Journal.Record
import Sexpr.Text.Character
import Sexpr.Text.Lines
import Sexpr.Text.Word

/-!
Layouts: how records are written. A format is a text with marks in it. A mark is a percent sign, the
name of a field in parentheses, flags, a least width, a precision behind a point, and a letter for
the way in which the field is written; two percent signs stand for one. The first mark may go
without a name, and then stands for a listing of the whole record.

A format is taken if it has at least one thing in it that looks like a mark. A mark that names
nothing that a record has, or that cannot write what it is about, comes to light only with the
records, none of which is written.
-/

namespace Sexpr

/-- The fields of a record. No record comes with an exception or a stack. -/
inductive Field where
  | logger | template | arguments | severity | rank
  | path | file | stem | exception | exceptionText | stack | line | function
  | created | millis | elapsed | thread | threadName | processName | process
  | message | clock
  deriving DecidableEq

namespace Field

def name : Field → String
  | .logger => "name"
  | .template => "msg"
  | .arguments => "args"
  | .severity => "levelname"
  | .rank => "levelno"
  | .path => "pathname"
  | .file => "filename"
  | .stem => "module"
  | .exception => "exc_info"
  | .exceptionText => "exc_text"
  | .stack => "stack_info"
  | .line => "lineno"
  | .function => "funcName"
  | .created => "created"
  | .millis => "msecs"
  | .elapsed => "relativeCreated"
  | .thread => "thread"
  | .threadName => "threadName"
  | .processName => "processName"
  | .process => "process"
  | .message => "message"
  | .clock => "asctime"

/-- The fields that a record is made with, in the order in which it holds them. -/
def inherent : List Field :=
  [.logger, .template, .arguments, .severity, .rank, .path, .file, .stem, .exception,
    .exceptionText, .stack, .line, .function, .created, .millis, .elapsed, .thread, .threadName,
    .processName, .process]

/-- The fields that are filled in for writing, the last of them only for the formats that ask for
it. -/
def belated (timed : Bool) : List Field :=
  if timed then [.message, .clock] else [.message]

def all : List Field :=
  inherent ++ belated true

def ofName? (name : String) : Option Field :=
  all.find? (·.name == name)

def value (site : Circumstances) (entry : Record) : Field → FieldValue
  | .logger => .text entry.logger
  | .template => .text entry.template
  | .arguments => .other (Argument.listing entry.arguments)
  | .severity => .text entry.severity.name
  | .rank => .number entry.severity.rank
  | .path => .text site.path
  | .file => .text site.file
  | .stem => .text site.stem
  | .exception | .exceptionText | .stack => .other "None"
  | .line => .number site.line
  | .function => .text site.function
  | .created => .measure site.created
  | .millis => .measure site.millis
  | .elapsed => .measure site.elapsed
  | .thread => .number site.thread
  | .threadName => .text site.threadName
  | .processName => .text site.processName
  | .process => .number site.process
  | .message => .text entry.message
  | .clock => .text site.clock

end Field

def Record.listing (timed : Bool) (site : Circumstances) (entry : Record) : String :=
  let entries (fields : List Field) := fields.map fun field => (field.name, field.value site entry)
  "\x7b" ++ ", ".intercalate
    ((entries Field.inherent ++ site.more ++ entries (Field.belated timed)).map fun (name, value) =>
      Text.quoted name ++ ": " ++ value.listing) ++ "\x7d"

/-- How a field is written: as it is, between quotes, between quotes in plain ASCII, as a numeral,
or as one character. -/
inductive Conversion where
  | plain | quoted | ascii | character
  | numeral (style : Numeral)
  deriving DecidableEq

def Conversion.ofLetter? : Char → Option Conversion
  | 's' => some .plain
  | 'r' => some .quoted
  | 'a' => some .ascii
  | 'c' => some .character
  | 'd' | 'i' | 'u' => some (.numeral .decimal)
  | 'o' => some (.numeral .octal)
  | 'x' => some (.numeral (.hexadecimal false))
  | 'X' => some (.numeral (.hexadecimal true))
  | 'f' | 'F' => some (.numeral .fixed)
  | 'e' => some (.numeral (.exponent false))
  | 'E' => some (.numeral (.exponent true))
  | 'g' => some (.numeral (.general false))
  | 'G' => some (.numeral (.general true))
  | _ => none

/-- What a mark is about: a field, something that records may have besides, or the whole record,
which knows the time on a clock if the format asks for it somewhere. -/
inductive Subject where
  | field (field : Field)
  | besides (name : String)
  | record (timed : Bool)
  deriving DecidableEq

def Subject.ofName (name : String) : Subject :=
  match Field.ofName? name with
  | some known => .field known
  | none => .besides name

structure Mark where
  subject : Subject
  flags : List Char
  width : Nat
  precision : Option Nat
  conversion : Conversion
  deriving DecidableEq

namespace Mark

def value? (mark : Mark) (site : Circumstances) (entry : Record) : Option FieldValue :=
  match mark.subject with
  | .field field => some (field.value site entry)
  | .besides name => site.more.lookup name
  | .record timed => some (.other (entry.listing timed site))

/-- Spaces up to the least width, behind the text where a flag says so, else before it. -/
def fill (mark : Mark) (text : String) : String :=
  if mark.flags.contains '-' then Text.padRight mark.width text else Text.padLeft mark.width text

def cut (mark : Mark) (text : String) : String :=
  match mark.precision with
  | some count => String.ofList (text.toList.take count)
  | none => text

def full (mark : Mark) : Bool :=
  mark.flags.contains '#'

/-- A numeral behind its sign, which is written for positive numbers only where a flag asks for it,
and behind its base. One more flag fills up with zeros behind the two. -/
def signed (mark : Mark) (style : Numeral) (negative : Bool) (digits : String) : String :=
  let sign := if negative then "-" else if mark.flags.contains '+' then "+"
    else if mark.flags.contains ' ' then " " else ""
  let head := sign ++ if mark.full then style.baseSign else ""
  if mark.flags.contains '0' && !mark.flags.contains '-' then
    head ++ Numeral.zeros (mark.width - head.length - digits.length) ++ digits
  else mark.fill (head ++ digits)

def number (mark : Mark) (style : Numeral) (value : Nat) : Option String :=
  match style.ofWhole? mark.precision value with
  | some digits => some (mark.signed style false digits)
  | none =>
    match Binary64.ofDecimal false value 0 with
    | .finite _ mantissa exponent =>
      (style.ofRatio? mark.full mark.precision (Measure.ratio ⟨false, mantissa, exponent⟩)).map
        (mark.signed style false)
    | .infinite _ | .nan => none

/-- A measured number in a style for fractions, or its whole part in decimal. -/
def measure (mark : Mark) (style : Numeral) (value : Measure) : Option String :=
  if style = .decimal then
    (style.ofWhole? mark.precision value.whole).map
      (mark.signed style (value.negative && value.whole ≠ 0))
  else (style.ofRatio? mark.full mark.precision value.ratio).map (mark.signed style value.negative)

def listing (mark : Mark) (text : String) : String :=
  if mark.conversion = .ascii then Text.plainAscii text else text

def render (mark : Mark) (value : FieldValue) : Option String :=
  match mark.conversion, value with
  | .plain, .text text => some (mark.fill (mark.cut text))
  | .plain, value | .quoted, value | .ascii, value =>
    some (mark.fill (mark.cut (mark.listing value.listing)))
  | .character, .text text => if text.length = 1 then some (mark.fill text) else none
  | .character, .number value =>
    if value.isValidChar then some (mark.fill (String.singleton (Char.ofNat value))) else none
  | .numeral style, .number value => mark.number style value
  | .numeral style, .measure value => mark.measure style value
  | .character, _ | .numeral _, _ => none

def zeroRun (mark : Mark) : Nat :=
  match mark.conversion with
  | .numeral (.general _) => if mark.full then mark.precision.getD 0 else 0
  | .numeral _ => mark.precision.getD 0
  | .plain | .quoted | .ascii | .character => 0

/-- Whether what the mark is filled up with fits into the memory. -/
def fits (memory : Nat) (mark : Mark) : Bool :=
  mark.width < memory && mark.zeroRun < memory

/-- What stands before the parenthesis that closes a text, and what stands behind it. Others that
open in between are closed first. -/
def toClosing : (opened : Nat) → List Char → Option (List Char × List Char)
  | _, [] => none
  | opened, c :: rest =>
    if c = ')' ∧ opened = 0 then some ([], rest)
    else
      let opened := if c = '(' then opened + 1 else if c = ')' then opened - 1 else opened
      (toClosing opened rest).map fun (front, behind) => (c :: front, behind)

/-- The name in parentheses at the front of a text; the whole record where no parenthesis opens. -/
def subject? (timed : Bool) : List Char → Option (Subject × List Char)
  | '(' :: rest =>
    (toClosing 0 rest).map fun (name, behind) => (.ofName (String.ofList name), behind)
  | text => some (.record timed, text)

def isFlag (c : Char) : Bool :=
  c == '-' || c == '+' || c == ' ' || c == '#' || c == '0'

def precisionLimit : Nat := 2147483647

def count (text : List Char) : Nat × List Char :=
  ((text.takeWhile Char.isDigit).foldl (fun value c => 10 * value + (c.toNat - 48)) 0,
    text.dropWhile Char.isDigit)

def precision? : List Char → Option (Option Nat × List Char)
  | '.' :: rest =>
    let (value, rest) := count rest
    if value ≤ precisionLimit then some (some value, rest) else none
  | rest => some (none, rest)

/-- One letter before the conversion says nothing. -/
def dropSize : List Char → List Char
  | c :: rest => if c = 'h' ∨ c = 'l' ∨ c = 'L' then rest else c :: rest
  | [] => []

/-- The mark behind a percent sign, unless it takes more than there is memory for. -/
def ofFormat? (memory : Nat) (timed : Bool) (text : List Char) : Option (Mark × List Char) := do
  let (subject, rest) ← subject? timed text
  let flags := rest.takeWhile isFlag
  let (width, rest) := count (rest.dropWhile isFlag)
  let (precision, rest) ← precision? rest
  match dropSize rest with
  | letter :: rest =>
    let mark : Mark := ⟨subject, flags, width, precision, ← Conversion.ofLetter? letter⟩
    if mark.fits memory then return (mark, rest) else none
  | [] => none

end Mark

/-- The parts of a layout; at a broken one writing fails. -/
inductive Piece where
  | text (value : Char)
  | field (mark : Mark)
  | broken
  deriving DecidableEq

def Piece.render (site : Circumstances) (entry : Record) : Piece → Option String
  | .text value => some (String.singleton value)
  | .field mark => (mark.value? site entry).bind mark.render
  | .broken => none

abbrev Layout : Type := List Piece

/-- A format that has nothing like a mark in it. -/
structure FormatFault where
  format : String
  deriving DecidableEq

def FormatFault.message (fault : FormatFault) : String :=
  "Invalid format '" ++ fault.format ++ "' for '%' style"

namespace Layout

/-- Skips a star or digits of any script. -/
def dropCount : List Char → List Char
  | '*' :: rest => rest
  | text => text.dropWhile Text.isDecimalDigit

def dropPrecision : List Char → List Char
  | '.' :: c :: rest =>
    if c == '*' || Text.isDecimalDigit c then dropCount (c :: rest) else '.' :: c :: rest
  | text => text

/-- Letters that look like those of a conversion, in either case. The i without a dot, the large one
with a dot and the long s count as an i and an s. -/
def isConversion (c : Char) : Bool :=
  "diouxefgcrsa%ıİſ".toList.contains c.toLower

def looksLikeMark : List Char → Bool
  | '(' :: rest =>
    !(rest.takeWhile Text.isWordChar).isEmpty && match rest.dropWhile Text.isWordChar with
      | ')' :: behind =>
        (dropPrecision (dropCount (behind.dropWhile Mark.isFlag))).head?.any isConversion
      | _ => false
  | _ => false

def isTaken : (format : List Char) → Bool
  | [] => false
  | c :: rest => (c == '%' && looksLikeMark rest) || isTaken rest

def isTimed : (format : List Char) → Bool
  | [] => false
  | c :: rest => "%(asctime)".toList.isPrefixOf (c :: rest) || isTimed rest

/-- The pieces of a format. Nothing is read behind a mark that is none. Only the first mark can be
about the whole record. -/
def pieces (memory : Nat) (timed : Bool) :
    (steps : Nat) → (first : Bool) → (format : List Char) → Layout
  | 0, _, _ => []
  | _, _, [] => []
  | steps + 1, first, '%' :: '%' :: rest => .text '%' :: pieces memory timed steps first rest
  | steps + 1, first, '%' :: rest =>
    match Mark.ofFormat? memory timed rest with
    | some (mark, rest) =>
      if first || mark.subject ≠ .record timed then
        .field mark :: pieces memory timed steps false rest
      else [.broken]
    | none => [.broken]
  | steps + 1, first, c :: rest => .text c :: pieces memory timed steps first rest

def plain (field : Field) : Piece :=
  .field ⟨.field field, [], 0, none, .plain⟩

/-- The layout of a format. The empty one stands for the message alone. -/
def ofFormat (memory : Nat) (format : String) : Except FormatFault Layout :=
  let text := format.toList
  if text.isEmpty then .ok [plain .message]
  else if isTaken text then .ok (pieces memory (isTimed text) text.length true text)
  else .error ⟨format⟩

/-- The layout of the command line: the severity in brackets, then the message. -/
def standard : Layout :=
  [.text '[', plain .severity, .text ']', .text ' ', plain .message]

end Layout

def Record.formatted (layout : Layout) (site : Circumstances) (entry : Record) : Option String :=
  (layout.mapM (Piece.render site entry)).map String.join

end Sexpr
