import Sexpr.Command.Config
import Sexpr.Command.Help

/-!
Running the program: a command line is read, the settings are loaded, and the command does its work
with them.
-/

namespace Sexpr.Command

/-- What a run leaves behind: how it ended, the texts on both streams, the warnings, and the
files. -/
structure Run where
  ending : Ending
  output : String
  complaints : String
  warnings : List UnknownKey
  files : FileTree

/-- A run in which records from a threshold on are written in a layout, or none are. -/
def Run.ofTranscript (outlet : Option (Severity × Layout)) (transcript : Transcript) : Run :=
  ⟨transcript.ending, transcript.output, transcript.complaints outlet, transcript.warnings,
    transcript.files⟩

/-- What is said when reading the command line stops. A misuse is explained under the usage of what
was misused. -/
def Halt.transcript (files : FileTree) (halt : Halt) : Transcript :=
  match halt.stop with
  | .help => ⟨[.output (helpOf halt.command)], .exit 0, files⟩
  | .version => ⟨[outputLine (programName ++ " " ++ version)], .exit 0, files⟩
  | .misuse fault =>
    ⟨[.complaint (usageOf halt.command),
      .complaint (titleOf halt.command ++ ": error: " ++ fault.message ++ "\n")], .exit 2, files⟩

def Shown.transcript (files : FileTree) (shown : Shown) : Transcript :=
  ⟨shown.events, shown.ending, files⟩

def perform (host : Host) (settings : Settings) : Task → Transcript
  | .check file quiet noTokens => (check host settings file quiet noTokens).transcript host.files
  | .tokens file format => (tokens host settings file format).transcript host.files
  | .tree file format => (tree host settings file format).transcript host.files
  | .config init paths user => config host init paths user

def Task.isQuiet : Task → Bool
  | .check _ quiet _ => quiet
  | _ => false

/-- Performs a task under the settings of the current directory. What happens while they are
loaded comes before there is a handler, so that records of it are lost. -/
def performLoaded (host : Host) (invocation : Invocation) (task : Task) : Run :=
  let loading := host.load Host.here
  let warnings := loading.unknown.map Event.warning
  match loading.result with
  | .error (.config fault) =>
    .ofTranscript none
      ⟨warnings ++ [.complaint ("Error: " ++ fault.report.render ++ "\n")], .exit 1, host.files⟩
  | .error (.broken cause) => .ofTranscript none ⟨warnings, .broken cause, host.files⟩
  | .ok profile =>
    let settings := profile.settings
    let threshold := Severity.threshold (invocation.verbose || settings.verbose)
      (task.isQuiet || settings.quiet)
    let effective := if invocation.lenient then { settings with strict := false } else settings
    let running := note .debug ("Running command " ++ Text.quoted task.name.text)
    .ofTranscript (some (threshold, .standard))
      ((perform host effective task).after (warnings ++ [.record running]))

/-- Runs the program. Without a command it explains itself. -/
def run (host : Host) (arguments : List String) : Run :=
  match Invocation.ofArguments host.platform.dropsDashes arguments with
  | .error halt => .ofTranscript none (halt.transcript host.files)
  | .ok invocation =>
    match invocation.task with
    | none => .ofTranscript none ⟨[.output (helpOf none)], .exit 0, host.files⟩
    | some task => performLoaded host invocation task

end Sexpr.Command
