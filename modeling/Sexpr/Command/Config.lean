import Sexpr.Command.Show
import Sexpr.Settings.Template

/-!
The `config` command: shows the settings in force and where they come from, shows which settings
files there are, or writes a new one from the template.
-/

namespace Sexpr.Command

def settingLine (limits : Limits) (name : String) (value : Option Value) (origin : String) :
    Except Breakdown String :=
  match value.bind (Value.obstacle? limits) with
  | some cause => .error cause
  | none =>
    let shown := if origin = "default" then origin else (Path.ofText origin).name
    .ok (name ++ " = " ++ Value.display value ++ "  # from: " ++ shown)

def sectionLines (limits : Limits) (profile : Profile) (part : Section) :
    List (Except Breakdown String) :=
  .ok "" :: .ok ("[" ++ part.name ++ "]") :: part.keys.map fun key =>
    settingLine limits key.name (some (profile.settings.get key)) (profile.originOf key.dotted)

def settingsLines (limits : Limits) (profile : Profile) : List (Except Breakdown String) :=
  .ok "# Effective lispish configuration" :: Section.all.flatMap (sectionLines limits profile)

/-- The lines before the first that cannot be shown, and what comes of it. -/
def showLines : List (Except Breakdown String) → List String × Ending
  | [] => ([], .exit 0)
  | .error cause :: _ => ([], .broken cause)
  | .ok line :: lines =>
    let (shown, ending) := showLines lines
    (line :: shown, ending)

def showSettings (host : Host) : Transcript :=
  let loading := host.load Host.here
  let before := loading.events
  match loading.result with
  | .error (.config fault) =>
    ⟨before ++ [.complaint ("Error: " ++ fault.report.render ++ "\n")], .exit 1, host.files⟩
  | .error (.broken cause) => ⟨before, .broken cause, host.files⟩
  | .ok profile =>
    let (lines, ending) := showLines (settingsLines host.platform.limits profile)
    ⟨before ++ [.output (Text.unlines lines)], ending, host.files⟩

def foundPaths (host : Host) : Except Breakdown (Option Path × Option Path) := do
  let project ← host.projectSettings Host.here
  let user ← host.userSettings
  return (user, project)

def showPaths (host : Host) : Transcript :=
  match foundPaths host with
  | .error cause => ⟨[], .broken cause, host.files⟩
  | .ok (user, project) =>
    let projectLine := match project with
      | some path => "  Found: " ++ path.render
      | none => "  Status: not found"
    ⟨[.output (Text.unlines
      ["User config: " ++ host.userFile.render,
       "  Status: " ++ if user.isSome then "exists" else "not found",
       "",
       "Project config search: " ++ ", ".intercalate Search.fileNames,
       projectLine])], .exit 0, host.files⟩

def templateTarget (host : Host) (user : Bool) : Path :=
  if user then host.userFile
  else .ofLocation (host.current ++ [Search.fileNames.headD ""])

/-- Writes the template to its file, which must not be there yet. -/
def writeTemplate (host : Host) (files : FileTree) (target : Path) : Transcript :=
  match files.isThere host.current target with
  | .error fault => ⟨[], .broken (.files fault target), files⟩
  | .ok true =>
    ⟨[.complaint ("Error: Config file already exists: " ++ target.render ++ "\n"),
      .complaint "Remove it first or edit manually.\n"], .exit 1, files⟩
  | .ok false =>
    match files.write host.current target Settings.template.toUTF8.toList with
    | .error fault =>
      ⟨[.complaint ("Error writing config file: " ++ fault.message target ++ "\n")], .exit 1,
        files⟩
    | .ok written =>
      ⟨[outputLine ("Created config template: " ++ target.render)], .exit 0, written⟩

/-- Creates a settings file from the template. The directories of the user's file are made before
anything else, and a failure to make them is not reported. -/
def createTemplate (host : Host) (user : Bool) : Transcript :=
  let target := templateTarget host user
  if user then
    match host.files.makeDirectories host.current target (target.parts.length - 1) with
    | .error stop => ⟨[], .broken (.files stop.fault stop.path), stop.files⟩
    | .ok files => writeTemplate host files target
  else writeTemplate host host.files target

/-- Creates a settings file, shows paths, or shows the settings, the first that is asked for. -/
def config (host : Host) (init paths user : Bool) : Transcript :=
  if init then createTemplate host user
  else if paths then showPaths host
  else showSettings host

end Sexpr.Command
