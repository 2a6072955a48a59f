import Sexpr.Settings.Load

/-!
Transcripts: everything that a command does to its surroundings, in order, and how it ends. A
command is a function from what it sees to its transcript.
-/

namespace Sexpr

inductive Event where
  | output (text : String)
  | complaint (text : String)
  | record (entry : Record)
  | warning (unknown : UnknownKey)

inductive Ending where
  | exit (code : Nat)
  | broken (cause : Breakdown)
  deriving DecidableEq

structure Transcript where
  events : List Event
  ending : Ending
  files : FileTree

namespace Transcript

def after (events : List Event) (transcript : Transcript) : Transcript :=
  { transcript with events := events ++ transcript.events }

def output (transcript : Transcript) : String :=
  String.join (transcript.events.filterMap fun
    | .output text => some text
    | _ => none)

/-- What is written to the standard error stream. Records go there if there is a layout for them
and they reach its threshold. The layout of the program shows nothing of where and when they are
made. -/
def complaints (outlet : Option (Severity × Layout)) (transcript : Transcript) : String :=
  let journal := Journal.ofOutlet outlet
  let written := transcript.events.foldl (fun (journal : Journal) event => match event with
    | .complaint text => journal.write 0 text
    | .record entry => journal.log .unknown entry
    | _ => journal) journal
  String.join written.streams

/-- The warnings, one for each time that a key was met. -/
def warnings (transcript : Transcript) : List UnknownKey :=
  transcript.events.filterMap fun
    | .warning unknown => some unknown
    | _ => none

end Transcript

def Loading.events (loading : Loading) : List Event :=
  loading.records.map .record ++ loading.unknown.map .warning

end Sexpr
