import Sexpr.Value

/-!
Settings: six keys in three sections, each with a kind of value and a default, and the origin of
every value that is not the default.
-/

namespace Sexpr

inductive Section where
  | defaults | parser | display
  deriving DecidableEq

inductive Key where
  | format | quiet | verbose | strict | kindWidth | showTokens
  deriving DecidableEq

namespace Section

def name : Section → String
  | .defaults => "defaults"
  | .parser => "parser"
  | .display => "display"

/-- All sections, in the order in which they are read and shown. -/
def all : List Section :=
  [.defaults, .parser, .display]

/-- The keys of a section, sorted by name. -/
def keys : Section → List Key
  | .defaults => [.format, .quiet, .verbose]
  | .parser => [.strict]
  | .display => [.kindWidth, .showTokens]

def ofName? (name : String) : Option Section :=
  all.find? (·.name == name)

end Section

namespace Key

def name : Key → String
  | .format => "format"
  | .quiet => "quiet"
  | .verbose => "verbose"
  | .strict => "strict"
  | .kindWidth => "kind_width"
  | .showTokens => "show_tokens"

def group : Key → Section
  | .format | .quiet | .verbose => .defaults
  | .strict => .parser
  | .kindWidth | .showTokens => .display

def dotted (key : Key) : String :=
  key.group.name ++ "." ++ key.name

def all : List Key :=
  Section.all.flatMap Section.keys

def ofDotted? (dotted : String) : Option Key :=
  all.find? (·.dotted == dotted)

def kind : Key → ValueKind
  | .format => .text
  | .kindWidth => .int
  | .quiet | .verbose | .strict | .showTokens => .flag

end Key

structure Settings where
  format : String
  verbose : Bool
  quiet : Bool
  strict : Bool
  kindWidth : Int
  showTokens : Bool
  deriving DecidableEq

namespace Settings

/-- What holds when no file says anything. -/
def default : Settings :=
  ⟨"text", false, false, true, 42, true⟩

def get (settings : Settings) : Key → Value
  | .format => .text settings.format
  | .quiet => .flag settings.quiet
  | .verbose => .flag settings.verbose
  | .strict => .flag settings.strict
  | .kindWidth => .int settings.kindWidth
  | .showTokens => .flag settings.showTokens

/-- Gives a key a value of its kind. A value of another kind is refused; no flag is a number. -/
def set? (settings : Settings) : Key → Value → Option Settings
  | .format, .text value => some { settings with format := value }
  | .quiet, .flag value => some { settings with quiet := value }
  | .verbose, .flag value => some { settings with verbose := value }
  | .strict, .flag value => some { settings with strict := value }
  | .kindWidth, .int value => some { settings with kindWidth := value }
  | .showTokens, .flag value => some { settings with showTokens := value }
  | _, _ => none

end Settings

/-- Settings with the file that each value comes from. -/
structure Profile where
  settings : Settings
  origin : Key → Option String

namespace Profile

def default : Profile :=
  ⟨.default, fun _ => none⟩

/-- The origin of the key of that dotted name, as it is shown. Names that no file has set, unknown
ones among them, are defaults. -/
def originOf (profile : Profile) (dotted : String) : String :=
  ((Key.ofDotted? dotted).bind profile.origin).getD "default"

def assign? (profile : Profile) (key : Key) (value : Value) (source : String) : Option Profile :=
  (profile.settings.set? key value).map fun settings =>
    ⟨settings, fun other => if other = key then some source else profile.origin other⟩

def origins (profile : Profile) : List (String × String) :=
  let known := [Section.defaults, .display, .parser].flatMap Section.keys
  known.filterMap fun key => (profile.origin key).map (key.dotted, ·)

end Profile

end Sexpr
