import Sexpr.Command.Invocation
import Sexpr.Command.Transcript
import Sexpr.Source
import Sexpr.Tree.Document
import Sexpr.Tree.Listing

/-!
The commands that show a source text: `check` echoes it and lists its tokens and its tree, `tokens`
and `tree` write one of the two in a chosen format.
-/

namespace Sexpr.Command

/-- Events and how they end. Showing a source changes no file. -/
structure Shown where
  events : List Event
  ending : Ending

def note (severity : Severity) (message : String) : Record :=
  .ofMessage "lispish.cli" severity message

def outputLine (line : String) : Event :=
  .output (line ++ "\n")

/-- Reports a problem and ends with a failure, or breaks down. -/
def failure (events : List Event) : Except Breakdown Report → Shown
  | .ok report => ⟨events ++ [.complaint ("Error: " ++ report.render ++ "\n")], .exit 1⟩
  | .error cause => ⟨events, .broken cause⟩

/-- The format that was asked for, else that of the settings if the command has it, else the first
that the command has; the last choice is worth a warning. Without any format there is none to
choose. -/
def chooseFormat (requested : Option String) (setting : String) (formats : List String) :
    Option (String × List Record) :=
  match requested.filter (· ≠ "") with
  | some format => some (format, [])
  | none =>
    if formats.contains setting then some (setting, [])
    else formats.head?.map fun format =>
      (format, [note .warning ("defaults.format = " ++ Text.quoted setting ++
        " is not available here, using " ++ Text.quoted format)])

def readSource (host : Host) (file : String) : List Record × Except SourceFault String :=
  if file = inputName then
    ([note .debug "Reading source from stdin"], .ok (Source.ofInput host))
  else Source.ofFile host (.ofText file)

def rule (stroke : Char) : Event :=
  outputLine (String.ofList (List.replicate 50 stroke))

def tokenLines (tokens : List Token) : String :=
  Text.unlines (tokens.map Token.listing)

/-- The line that stands for everything behind a failure. -/
def checkFailure (before : List Event) (message : String) : Shown :=
  ⟨before ++ [.record (note .debug ("check failed: " ++ message)),
    outputLine "Threw an exception on invalid input."], .exit 1⟩

def checkText (limits : Limits) (settings : Settings) (quiet noTokens : Bool) (text : String) :
    Shown :=
  let echo := if quiet || settings.quiet then [] else
    [outputLine ("Input: " ++ text), rule '-']
  let opening := rule '=' :: echo
  match tokenize text with
  | .error fault => checkFailure opening fault.report.message
  | .ok tokens =>
    let listing := if settings.showTokens && !noTokens then
      [outputLine "Tokens", rule '-', .output (tokenLines tokens), rule '-'] else []
    match Grammar.parse settings.strict tokens with
    | .error fault => checkFailure (opening ++ listing) fault.message
    | .ok tree =>
      let heading := [outputLine "Parse Tree", rule '-']
      match tree.writeListing limits "" settings.kindWidth with
      | .error cause => ⟨opening ++ listing ++ heading, .broken cause⟩
      | .ok text => ⟨opening ++ listing ++ heading ++ [outputLine text, rule '-'], .exit 0⟩

/-- Echoes a source, lists its tokens and its tree. -/
def check (host : Host) (settings : Settings) (file : String) (quiet noTokens : Bool) : Shown :=
  match readSource host file with
  | (records, .error fault) => failure (records.map .record) fault.report
  | (records, .ok text) =>
    let shown := checkText host.platform.limits settings quiet noTokens text
    { shown with events := records.map .record ++ shown.events }

def tokenDocument (token : Token) : Json :=
  .object [("kind", .text token.kind.name), ("text", .text token.text),
    ("offset", .number token.offset)]

/-- The table of tokens: the number of each, its kind, word and offset. -/
def tokenTable (tokens : List Token) : TextTable where
  title := "Tokens (" ++ toString tokens.length ++ ")"
  columns := [⟨"#", true, some "dim"⟩, ⟨"Kind", false, some "cyan"⟩, ⟨"Text", false, none⟩,
    ⟨"Offset", true, none⟩]
  rows := tokens.zipIdx.map fun (token, number) =>
    [toString number, token.kind.name, token.text, toString token.offset]

def formatTokens (platform : Platform) (format : String) (tokens : List Token) :
    Except Breakdown String :=
  if format = "json" then .ok ((Json.array (tokens.map tokenDocument)).render 2 0 ++ "\n")
  else if format = "table" then platform.drawTable (tokenTable tokens)
  else .ok (tokenLines tokens)

def formatFor (command : CommandName) (requested : Option String) (setting : String) :
    String × List Record :=
  (chooseFormat requested setting command.formats).getD ("", [])

def tokens (host : Host) (settings : Settings) (file : String) (requested : Option String) :
    Shown :=
  let (format, warned) := formatFor .tokens requested settings.format
  let (records, result) := readSource host file
  let before := (warned ++ records).map Event.record
  match result with
  | .error fault => failure before fault.report
  | .ok text =>
    match tokenize text with
    | .error fault => failure before (.ok fault.report)
    | .ok found =>
      match formatTokens host.platform format found with
      | .error cause => ⟨before, .broken cause⟩
      | .ok text => ⟨before ++ [.output text], .exit 0⟩

def formatTree (limits : Limits) (format : String) (column : Int) (tree : Tree) :
    Except Breakdown String :=
  if format = "json" then (tree.writeDocument limits 2).map (· ++ "\n")
  else (tree.writeListing limits "" column).map (· ++ "\n")

def readTree (host : Host) (strict : Bool) (file : String) :
    List Record × Except FileFault Tree :=
  if file = inputName then
    let (records, result) := Program.read strict (Source.ofInput host)
    (note .debug "Reading source from stdin" :: records, result.mapError .reading)
  else Program.ofFile strict host (.ofText file)

def tree (host : Host) (settings : Settings) (file : String) (requested : Option String) : Shown :=
  let (format, warned) := formatFor .tree requested settings.format
  let (records, result) := readTree host settings.strict file
  let before := (warned ++ records).map Event.record
  match result with
  | .error fault => failure before fault.report
  | .ok found =>
    match formatTree host.platform.limits format settings.kindWidth found with
    | .error cause => ⟨before, .broken cause⟩
    | .ok text => ⟨before ++ [.output text], .exit 0⟩

end Sexpr.Command
