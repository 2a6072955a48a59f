import Sexpr.Command.Run

/-!
The command line itself. First the part of the machine's files is surveyed that the arguments can
reach; then the run is computed; then what it says is printed and what it made is written.
-/

namespace Sexpr.Command

/-- What a place of the machine leads to: to nothing, nowhere since it must not be looked for, or to
the true place of a node, which may be closed to reading. -/
inductive Finding where
  | nothing
  | denied
  | node (actual : Location) (node : Node) (isReadable : Bool)

def look (place : Location) : IO Finding := do
  try
    let found ← IO.FS.realPath (Path.ofLocation place).render
    let actual := (Path.ofText found.toString).parts
    match (← found.metadata).type with
    | .dir => return .node actual .directory true
    | .file =>
      try return .node actual (.file (← IO.FS.readBinFile found).toList) true
      catch _ => return .node actual (.file []) false
    | _ => return .nothing
  catch
    | .permissionDenied .. => return .denied
    | _ => return .nothing

def deny (files : FileTree) (place : Location) (access : Access) : FileTree :=
  { files with denials := ((place, access), .noPermission) :: files.denials }

def settle (files : FileTree) (place : Location) (node : Node) : FileTree :=
  let above := (Search.directories place).tail.filter (· ≠ [])
  (above.foldl (fun files directory => files.put directory .directory) files).put place node

def survey (files : FileTree) (start : Location) : (names : List String) → IO FileTree
  | [] => return files
  | name :: rest => do
    if name = ".." then survey files start.dropLast rest
    else
      let place := start ++ [name]
      match ← look place with
      | .nothing => return files
      | .denied => return deny files start .search
      | .node actual node isReadable =>
        let files := settle files actual node
        let files := if isReadable then files else deny files actual .read
        let files :=
          if actual = place then files
          else settle files place (.link (Path.ofLocation actual).render)
        survey files actual rest

/-- The machine as far as the arguments can reach it. The standard input is read only for a command
that asks for it. -/
def surveyHost (arguments : List String) : IO Host := do
  let current := (Path.ofText (← IO.currentDir).toString).parts
  let home := Path.ofText ((← IO.getEnv "HOME").getD "/")
  let userFile : Path := { home with parts := home.parts ++ [".config", "lispish", "config.toml"] }
  let mut files ← survey .empty [] current
  for directory in Search.directories current do
    for name in Search.fileNames ++ [Search.projectMark] do
      files ← survey files [] (directory ++ [name])
  files ← survey files (FileTree.startOf current userFile) userFile.parts
  let platform := Platform.plain
  let invocation := (Invocation.ofArguments platform.dropsDashes arguments).toOption
  match invocation.bind (·.task) >>= Task.source? with
  | none => return ⟨files, current, userFile, "", platform⟩
  | some file =>
    if file = inputName then
      return ⟨files, current, userFile, ← (← IO.getStdin).readToEnd, platform⟩
    else
      let path := Path.ofText file
      files ← survey files (FileTree.startOf current path) path.parts
      return ⟨files, current, userFile, "", platform⟩

def writeChanges (before after : FileTree) : IO Unit := do
  for (place, node) in after.nodes do
    if let .file content := node then
      if before.node? place ≠ some node then
        IO.FS.createDirAll (Path.ofLocation place.dropLast).render
        IO.FS.writeBinFile (Path.ofLocation place).render ⟨content.toArray⟩

/-- The exit code of an ending, and what is said about a breakdown. -/
def statusOf : Ending → UInt32 × String
  | .exit code => (code.toUInt32, "")
  | .broken cause => (1, "Error: " ++ cause.message ++ "\n")

end Sexpr.Command

open Sexpr Sexpr.Command in
def main (arguments : List String) : IO UInt32 := do
  let host ← surveyHost arguments
  let done := run host arguments
  for unknown in done.warnings do
    IO.eprintln ("Warning: " ++ unknown.message)
  IO.print done.output
  IO.eprint done.complaints
  writeChanges host.files done.files
  let (code, said) := statusOf done.ending
  IO.eprint said
  return code
