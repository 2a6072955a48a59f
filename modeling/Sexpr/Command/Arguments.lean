import Sexpr.Text.Character
import Sexpr.Text.Quoted

/-!
Command line arguments. A specification says which options a command knows and what operand it
takes; reading arguments against it gives the options and the operand that were written, and the
arguments that mean nothing. Long options may be shortened as long as only one option starts that
way, short ones without a value may share a dash, and two dashes alone end the options.
-/

namespace Sexpr.Command

inductive Switch where
  | help | version | verbose | lenient
  | quiet | noTokens | format
  | doShow | doInit | doPaths | user
  deriving DecidableEq

/-- An option with all its spellings, and the values it takes if it takes one. -/
structure OptionSpec where
  switch : Switch
  names : List String
  choices : Option (List String)

/-- What stands beside the options: nothing, the name of a command with all that follows it, or a
file, which may be left out or not. -/
inductive Operand where
  | nothing
  | command (names : List String)
  | file (required : Bool)
  deriving DecidableEq

/-- The options of one command, its operand, and options of which only one may be given. Readers of
arguments differ in whether two dashes that are written as a value count as none. -/
structure Spec where
  options : List OptionSpec
  operand : Operand
  exclusive : List Switch
  dropsDashes : Bool

/-- What is wrong with arguments. An option is named by all its spellings. -/
inductive UsageFault where
  | ambiguous (written : String) (candidates : List String)
  | valueIgnored (option : String) (value : String)
  | valueMissing (option : String)
  | invalidChoice (argument : String) (value : String) (choices : List String)
  | conflict (option other : String)
  | required (operand : String)
  | unrecognized (arguments : List String)
  deriving DecidableEq

def UsageFault.message : UsageFault → String
  | .ambiguous written candidates =>
    "ambiguous option: " ++ written ++ " could match " ++ ", ".intercalate candidates
  | .valueIgnored option value =>
    "argument " ++ option ++ ": ignored explicit argument " ++ Text.quoted value
  | .valueMissing option => "argument " ++ option ++ ": expected one argument"
  | .invalidChoice argument value choices =>
    "argument " ++ argument ++ ": invalid choice: " ++ Text.quoted value ++ " (choose from " ++
      ", ".intercalate (choices.map Text.quoted) ++ ")"
  | .conflict option other => "argument " ++ option ++ ": not allowed with argument " ++ other
  | .required operand => "the following arguments are required: " ++ operand
  | .unrecognized arguments => "unrecognized arguments: " ++ " ".intercalate arguments

def OptionSpec.title (option : OptionSpec) : String :=
  "/".intercalate option.names

/-- An option as it was written: which one, the spelling that was used, and the value in the same
argument. -/
structure Written where
  option : OptionSpec
  name : List Char
  value : Option (List Char)

/-- What an argument looks like before it is known what the others are. -/
inductive Shape where
  | plain
  | dashes
  | unknown
  | option (written : Written)

/-- A minus with digits of any script and at most one point between or before them. A line feed at
the very end does not matter. -/
def isNegativeNumber : List Char → Bool
  | '-' :: rest =>
    let number := if rest.getLast? = some '\n' then rest.dropLast else rest
    match number.dropWhile Text.isDecimalDigit with
    | [] => !number.isEmpty
    | '.' :: fraction => !fraction.isEmpty && fraction.all Text.isDecimalDigit
    | _ => false
  | _ => false

namespace Spec

def spellings (spec : Spec) : List (OptionSpec × List Char) :=
  spec.options.flatMap fun option => option.names.map fun name => (option, name.toList)

def find? (spec : Spec) (name : List Char) : Option OptionSpec :=
  (spec.spellings.find? fun (_, spelling) => spelling == name).map (·.1)

def splitValue (argument : List Char) : List Char × Option (List Char) :=
  match argument.dropWhile (· ≠ '=') with
  | _ :: value => (argument.takeWhile (· ≠ '='), some value)
  | [] => (argument, none)

/-- The options that an argument which is no spelling may stand for. A long one may be cut short;
behind a short one the rest of the argument is its value. -/
def candidates (spec : Spec) (argument : List Char) : List Written :=
  match argument with
  | '-' :: '-' :: _ =>
    let (name, value) := splitValue argument
    spec.spellings.filterMap fun (option, spelling) =>
      if name.isPrefixOf spelling then some ⟨option, spelling, value⟩ else none
  | _ =>
    spec.spellings.filterMap fun (option, spelling) =>
      if spelling == argument.take 2 then some ⟨option, spelling, some (argument.drop 2)⟩
      else if argument.isPrefixOf spelling then some ⟨option, spelling, none⟩
      else none

/-- The shape of an argument before any double dash. Negative numbers and what holds a space are
never options, unless an option is spelled like that. -/
def shapeOf (spec : Spec) (argument : String) : Except UsageFault Shape :=
  let text := argument.toList
  match text with
  | '-' :: _ :: _ =>
    match spec.find? text with
    | some option => .ok (.option ⟨option, text, none⟩)
    | none =>
      match splitValue text with
      | (name, some value) =>
        match spec.find? name with
        | some option => .ok (.option ⟨option, name, some value⟩)
        | none => guess text
      | (_, none) => guess text
  | _ => .ok .plain
where
  guess (text : List Char) : Except UsageFault Shape :=
    match spec.candidates text with
    | [] =>
      if isNegativeNumber text || text.contains ' ' then .ok .plain else .ok .unknown
    | [written] => .ok (.option written)
    | several =>
      .error (.ambiguous argument (several.map fun written => String.ofList written.name))

/-- The shapes of all arguments. Behind two dashes alone everything is plain. -/
def shapes (spec : Spec) : List String → Except UsageFault (List (String × Shape))
  | [] => .ok []
  | argument :: rest =>
    if argument = "--" then .ok ((argument, .dashes) :: rest.map (·, .plain))
    else do
      let shape ← spec.shapeOf argument
      return (argument, shape) :: (← spec.shapes rest)

/-- Options that share a dash: each takes no value, and the next character names the next one. -/
def bundle (spec : Spec) (option : OptionSpec) :
    List Char → Except UsageFault (List (OptionSpec × Option (List Char)))
  | [] => .ok [(option, none)]
  | c :: rest =>
    match option.choices with
    | some _ => .ok [(option, some (c :: rest))]
    | none =>
      match spec.find? ['-', c] with
      | some next => do return (option, none) :: (← spec.bundle next rest)
      | none => .error (.valueIgnored option.title (String.ofList (c :: rest)))

/-- The options in one argument; the last one may still want its value from the next. -/
def unfold (spec : Spec) (written : Written) :
    Except UsageFault (List (OptionSpec × Option (List Char))) :=
  match written.value, written.option.choices with
  | none, _ => .ok [(written.option, none)]
  | some value, some _ => .ok [(written.option, some value)]
  | some value, none =>
    if written.name.take 2 = ['-', '-'] ∨ value = [] then
      .error (.valueIgnored written.option.title (String.ofList value))
    else spec.bundle written.option value

end Spec

/-- What has been read of the arguments: the options in order with their values, the operand with
all that belongs to it, and what means nothing. -/
structure Reading where
  given : List (Switch × Option String)
  operand : Option (List String)
  extras : List String

/-- Reading ends early when help or the version is asked for, and at a fault. -/
inductive Stop where
  | help
  | version
  | misuse (fault : UsageFault)

namespace Reading

def empty : Reading :=
  ⟨[], none, []⟩

def take (reading : Reading) (spec : Spec) (option : OptionSpec) (value : Option String) :
    Except Stop Reading :=
  let rivals := if spec.exclusive.contains option.switch then
    spec.options.filter fun other =>
      other.switch ≠ option.switch && spec.exclusive.contains other.switch &&
        reading.given.any (·.1 = other.switch)
    else []
  let value := value.filter fun word => !(spec.dropsDashes && word == "--")
  match option.choices, value with
  | some choices, some word =>
    if choices.contains word then
      .ok { reading with given := reading.given ++ [(option.switch, some word)] }
    else .error (.misuse (.invalidChoice option.title word choices))
  | _, _ =>
    match rivals with
    | other :: _ => .error (.misuse (.conflict option.title other.title))
    | [] =>
      match option.switch with
      | .help => .error .help
      | .version => .error .version
      | switch => .ok { reading with given := reading.given ++ [(switch, value)] }

def takeAll (reading : Reading) (spec : Spec) :
    List (OptionSpec × Option (List Char)) → Except Stop Reading
  | [] => .ok reading
  | (option, value) :: rest => do
    (← reading.take spec option (value.map String.ofList)).takeAll spec rest

def addExtra (reading : Reading) (argument : String) : Reading :=
  { reading with extras := reading.extras ++ [argument] }

def setOperand (reading : Reading) (words : List String) : Reading :=
  { reading with operand := some words }

/-- Reads arguments from left to right. Two dashes alone belong to the operand beside them. -/
def scan (spec : Spec) : List (String × Shape) → Reading → Except Stop Reading
  | [], reading => .ok reading
  | (argument, shape) :: rest, reading =>
    match shape with
    | .unknown => scan spec rest (reading.addExtra argument)
    | .option written =>
      match spec.unfold written with
      | .error fault => .error (.misuse fault)
      | .ok found =>
        match found.getLast? with
        | some (last, none) =>
          if last.choices.isNone then
            match reading.takeAll spec found with
            | .error stop => .error stop
            | .ok reading => scan spec rest reading
          else match rest with
            | (value, .plain) :: rest =>
              match reading.takeAll spec (found.dropLast ++ [(last, some value.toList)]) with
              | .error stop => .error stop
              | .ok reading => scan spec rest reading
            | _ => .error (.misuse (.valueMissing last.title))
        | _ =>
          match reading.takeAll spec found with
          | .error stop => .error stop
          | .ok reading => scan spec rest reading
    | .plain =>
      match spec.operand, reading.operand with
      | .command _, none => .ok (reading.setOperand (argument :: rest.map (·.1)))
      | .file _, none =>
        match rest with
        | (_, .dashes) :: rest => scan spec rest (reading.setOperand [argument])
        | rest => scan spec rest (reading.setOperand [argument])
      | _, _ => scan spec rest (reading.addExtra argument)
    | .dashes =>
      match spec.operand, reading.operand with
      | .command _, none =>
        if rest.isEmpty then scan spec rest (reading.addExtra argument)
        else .ok (reading.setOperand (argument :: rest.map (·.1)))
      | .file required, none =>
        match rest with
        | (file, _) :: rest => scan spec rest (reading.setOperand [file])
        | [] =>
          if required then scan spec [] (reading.addExtra argument)
          else scan spec [] (reading.setOperand [])
      | _, _ => scan spec rest (reading.addExtra argument)

def has (reading : Reading) (switch : Switch) : Bool :=
  reading.given.any (·.1 = switch)

def valueOf (reading : Reading) (switch : Switch) : Option String :=
  match (reading.given.filter (·.1 = switch)).getLast? with
  | some (_, value) => value
  | none => none

def file? (reading : Reading) : Option String :=
  reading.operand.bind (·.head?)

end Reading

/-- Reads all arguments of a command and sees that its operand is there and known. -/
def Spec.read (spec : Spec) (arguments : List String) : Except Stop Reading :=
  match spec.shapes arguments with
  | .error fault => .error (.misuse fault)
  | .ok shapes =>
    match Reading.scan spec shapes .empty with
    | .error stop => .error stop
    | .ok reading =>
      match spec.operand, reading.operand with
      | .command names, some (name :: _) =>
        if names.contains name then .ok reading
        else .error (.misuse (.invalidChoice "command" name names))
      | .file true, none => .error (.misuse (.required "file"))
      | _, _ => .ok reading

end Sexpr.Command
