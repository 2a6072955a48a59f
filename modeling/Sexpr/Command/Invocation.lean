import Sexpr.Command.Arguments

/-!
Invocations: what a command line asks for, and the texts that explain it.
-/

namespace Sexpr.Command

inductive Task where
  | check (file : String) (quiet noTokens : Bool)
  | tokens (file : String) (format : Option String)
  | tree (file : String) (format : Option String)
  | config (init paths user : Bool)
  deriving DecidableEq

/-- The options before the command, and the command if there is one. -/
structure Invocation where
  verbose : Bool
  lenient : Bool
  task : Option Task
  deriving DecidableEq

def programName : String := "lispish"

def version : String := "0.1.0"

inductive CommandName where
  | check | tokens | tree | config
  deriving DecidableEq

def CommandName.text : CommandName → String
  | .check => "check"
  | .tokens => "tokens"
  | .tree => "tree"
  | .config => "config"

def CommandName.all : List CommandName :=
  [.check, .tokens, .tree, .config]

def CommandName.ofText? (text : String) : Option CommandName :=
  all.find? (·.text == text)

def Task.name : Task → CommandName
  | .check _ _ _ => .check
  | .tokens _ _ => .tokens
  | .tree _ _ => .tree
  | .config _ _ _ => .config

def Task.source? : Task → Option String
  | .check file _ _ | .tokens file _ | .tree file _ => some file
  | .config _ _ _ => none

/-- The formats in which a command can write, the preferred one first. -/
def CommandName.formats : CommandName → List String
  | .tokens => ["text", "table", "json"]
  | .tree => ["text", "json"]
  | .check | .config => []

def helpOption : OptionSpec :=
  ⟨.help, ["-h", "--help"], none⟩

def mainSpec (dropsDashes : Bool) : Spec :=
  ⟨[helpOption, ⟨.version, ["--version"], none⟩, ⟨.verbose, ["-v", "--verbose"], none⟩,
    ⟨.lenient, ["--lenient"], none⟩], .command (CommandName.all.map CommandName.text), [],
    dropsDashes⟩

def CommandName.spec (dropsDashes : Bool) : CommandName → Spec
  | .check =>
    ⟨[helpOption, ⟨.quiet, ["-q", "--quiet"], none⟩, ⟨.noTokens, ["--no-tokens"], none⟩],
      .file false, [], dropsDashes⟩
  | .tokens =>
    ⟨[helpOption, ⟨.format, ["--format"], some (CommandName.formats .tokens)⟩], .file true, [],
      dropsDashes⟩
  | .tree =>
    ⟨[helpOption, ⟨.format, ["--format"], some (CommandName.formats .tree)⟩], .file true, [],
      dropsDashes⟩
  | .config =>
    ⟨[helpOption, ⟨.doShow, ["--show"], none⟩, ⟨.doInit, ["--init"], none⟩,
      ⟨.doPaths, ["--paths"], none⟩, ⟨.user, ["--user"], none⟩], .nothing,
      [.doShow, .doInit, .doPaths], dropsDashes⟩

/-- The file that stands for the standard input. -/
def inputName : String := "-"

def CommandName.task (name : CommandName) (reading : Reading) : Task :=
  let file := reading.file?.getD inputName
  match name with
  | .check => .check file (reading.has .quiet) (reading.has .noTokens)
  | .tokens => .tokens file (reading.valueOf .format)
  | .tree => .tree file (reading.valueOf .format)
  | .config => .config (reading.has .doInit) (reading.has .doPaths) (reading.has .user)

/-- Reading a command line stops for the program as a whole, or for one command. -/
structure Halt where
  command : Option CommandName
  stop : Stop

/-- What a command line asks for. An argument that means nothing is reported by the program, also
when a command was given it. -/
def Invocation.ofArguments (dropsDashes : Bool) (arguments : List String) :
    Except Halt Invocation :=
  match (mainSpec dropsDashes).read arguments with
  | .error stop => .error ⟨none, stop⟩
  | .ok outer =>
    let result (task : Option Task) (extras : List String) : Except Halt Invocation :=
      if extras.isEmpty then .ok ⟨outer.has .verbose, outer.has .lenient, task⟩
      else .error ⟨none, .misuse (.unrecognized extras)⟩
    match outer.operand with
    | some (word :: rest) =>
      match CommandName.ofText? word with
      | some name =>
        match (name.spec dropsDashes).read rest with
        | .error stop => .error ⟨some name, stop⟩
        | .ok inner => result (some (name.task inner)) (outer.extras ++ inner.extras)
      | none => result none outer.extras
    | _ => result none outer.extras

end Sexpr.Command
