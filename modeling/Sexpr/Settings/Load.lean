import Sexpr.Journal
import Sexpr.Platform
import Sexpr.Report
import Sexpr.Settings.Merge
import Sexpr.Settings.Search
import Sexpr.Text.Utf8
import Sexpr.Toml.Document

/-!
Loading settings: the user's file is laid over the defaults and the project's file over both.
-/

namespace Sexpr

inductive ConfigFault where
  | unreadable (path : Path) (cause : OsFault)
  | noToml (path : Path) (reason : String)
  | wrongKind (cause : WrongKind)

def ConfigFault.report : ConfigFault → Report
  | .unreadable path cause =>
    ⟨"Cannot read config file " ++ path.render ++ ": " ++ cause.message path,
      [("file", .text path.render)], []⟩
  | .noToml path reason =>
    ⟨"Invalid TOML in " ++ path.render ++ ": " ++ reason, [("file", .text path.render)], []⟩
  | .wrongKind cause =>
    ⟨cause.message, [("file", .text cause.source), ("key", .text cause.key),
      ("value", .text cause.value.render)], []⟩

/-- Why loading fails: by a fault that is reported, or by a breakdown. -/
inductive LoadFault where
  | config (fault : ConfigFault)
  | broken (cause : Breakdown)

/-- A value of a wrong kind, which is reported only if it can be shown. -/
def LoadFault.ofWrongKind (limits : Limits) (fault : WrongKind) : LoadFault :=
  match fault.value.obstacle? limits with
  | some cause => .broken cause
  | none => .config (.wrongKind fault)

def LoadFault.ofToml (path : Path) (text : List Char) (fault : Toml.Fault) : LoadFault :=
  match fault.cause.breakdown? with
  | some cause => .broken cause
  | none => .config (.noToml path (Toml.explain text fault))

/-- Loading leaves records and warnings behind, and gives a profile or a fault. -/
structure Loading where
  records : List Record
  unknown : List UnknownKey
  result : Except LoadFault Profile

namespace Loading

def andThen (first : Loading) (next : Profile → Loading) : Loading :=
  match first.result with
  | .error _ => first
  | .ok profile =>
    let rest := next profile
    ⟨first.records ++ rest.records, first.unknown ++ rest.unknown, rest.result⟩

def readTable (limits : Limits) (files : FileTree) (current : Location) (path : Path) :
    Except LoadFault Entries :=
  match files.read current path with
  | .error cause => .error (.config (.unreadable path cause))
  | .ok bytes =>
    match Text.Utf8.decode bytes with
    | .error offset => .error (.broken (.noText offset))
    | .ok text => (Toml.parse limits text).mapError (.ofToml path text)

def layer (limits : Limits) (files : FileTree) (current : Location) (profile : Profile)
    (path : Path) : Loading :=
  let record := Record.ofMessage "lispish.config" .debug ("Loading config from " ++ path.render)
  match readTable limits files current path with
  | .error fault => ⟨[record], [], .error fault⟩
  | .ok table =>
    let merged := profile.merge path.render table
    ⟨[record], merged.unknown,
      match merged.fault with
      | some fault => .error (.ofWrongKind limits fault)
      | none => .ok merged.profile⟩

/-- Lays the settings file that was looked for over a profile, if there is one. -/
def layerFound (limits : Limits) (files : FileTree) (current : Location)
    (found : Except Breakdown (Option Path)) (profile : Profile) : Loading :=
  match found with
  | .error cause => ⟨[], [], .error (.broken cause)⟩
  | .ok none => ⟨[], [], .ok profile⟩
  | .ok (some path) => layer limits files current profile path

end Loading

/-- What the program sees of the machine: the files, the current directory, the user's settings
file, the standard input, and the platform. -/
structure Host where
  files : FileTree
  current : Location
  userFile : Path
  input : String
  platform : Platform

namespace Host

def userSettings (host : Host) : Except Breakdown (Option Path) :=
  match host.files.isThere host.current host.userFile with
  | .ok there => .ok (if there then some host.userFile else none)
  | .error fault => .error (.files fault host.userFile)

def projectSettings (host : Host) (start : Path) : Except Breakdown (Option Path) :=
  Search.project host.files host.current start

def load (host : Host) (start : Path) : Loading :=
  let layerFound := Loading.layerFound host.platform.limits host.files host.current
  (layerFound host.userSettings .default).andThen (layerFound (host.projectSettings start))

/-- The path of the current directory, relative to itself. -/
def here : Path :=
  ⟨.none, []⟩

end Host

end Sexpr
