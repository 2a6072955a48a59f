import Sexpr.Journal
import Sexpr.Program
import Sexpr.Settings.Load
import Sexpr.Text.Lines

/-!
Source texts: what is read from a file as a program. Files hold UTF-8, and their lines may end in
any of the usual ways.
-/

namespace Sexpr

inductive SourceFault where
  | noFile (path : Path)
  | noText (path : Path) (offset : Nat)
  | broken (cause : Breakdown)
  deriving DecidableEq

/-- How the fault is reported; a breakdown is not. -/
def SourceFault.report : SourceFault → Except Breakdown Report
  | .noFile path =>
    .ok (Report.inFile ⟨"Source file not found", [], ["Check the file path"]⟩ (some path.render))
  | .noText path offset =>
    .ok ((Report.inFile
      ⟨"Source file is not valid UTF-8", [], ["Re-save the file with UTF-8 encoding"]⟩
      (some path.render)).atByte (some offset))
  | .broken cause => .error cause

inductive FileFault where
  | source (cause : SourceFault)
  | reading (cause : ReadFault)

def FileFault.report : FileFault → Except Breakdown Report
  | .source cause => cause.report
  | .reading (.lexing cause) => .ok cause.report
  | .reading (.parsing (.rejected cause)) => .ok cause.report
  | .reading (.parsing (.misplaced cause)) => .ok (.ofMessage cause.message)

namespace Source

def decode (bytes : List UInt8) : Except Nat String :=
  (Text.Utf8.decode bytes).map fun text => String.ofList (Text.unifyLineEnds text)

def ofFile (host : Host) (path : Path) : List Record × Except SourceFault String :=
  match host.files.isFile host.current path with
  | .error fault => ([], .error (.broken (.files fault path)))
  | .ok false => ([], .error (.noFile path))
  | .ok true =>
    ([Program.note "Reading %s" [.text path.render]],
      match host.files.read host.current path with
      | .error fault => .error (.broken (.files fault path))
      | .ok bytes =>
        match decode bytes with
        | .ok text => .ok text
        | .error offset => .error (.noText path offset))

def ofInput (host : Host) : String :=
  String.ofList (Text.unifyLineEnds host.input.toList)

end Source

def Program.ofFile (strict : Bool) (host : Host) (path : Path) :
    List Record × Except FileFault Tree :=
  match Source.ofFile host path with
  | (records, .error cause) => (records, .error (.source cause))
  | (records, .ok text) =>
    let (more, result) := Program.read strict text
    (records ++ more, result.mapError .reading)

end Sexpr
