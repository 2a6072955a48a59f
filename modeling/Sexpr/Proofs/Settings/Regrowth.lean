import Sexpr.Proofs.Settings.Discovery
import Sexpr.Proofs.Settings.Template

/-!
Loading again in a file tree that has grown. A settings file that was found before reads the same,
and the search for the project's file comes to the same end if nothing has appeared where it looks.
The user's file may be there now and not have been there before; if it is the template, it makes no
difference.
-/

namespace Sexpr

open FileTree (Within)

section Layers

variable {limits : Limits} {files grown : FileTree} {current : Location} {path : Path}
  {table : Entries}

theorem Loading.readTable_within (h : files.Within grown)
    (hread : readTable limits files current path = .ok table) :
    readTable limits grown current path = .ok table := by
  unfold readTable at hread ⊢
  cases hbytes : files.read current path with
  | error cause =>
      rw [hbytes] at hread
      cases hread
  | ok bytes =>
      rw [hbytes] at hread
      rw [h.read_eq hbytes]
      exact hread

theorem Loading.layerOf_within {found : Except Breakdown (Option Path)} {layer : Option Layer}
    (h : files.Within grown) (hlayer : layerOf limits files current found = .ok layer) :
    layerOf limits grown current found = .ok layer := by
  match found with
  | .error cause => cases hlayer
  | .ok none => exact hlayer
  | .ok (some path) =>
    rw [layerOf] at hlayer ⊢
    cases htable : readTable limits files current path with
    | error fault =>
        rw [htable] at hlayer
        cases hlayer
    | ok table =>
        rw [htable] at hlayer
        rw [readTable_within h htable]
        exact hlayer

theorem Loading.readTable_template (hread : files.read current path = .ok Settings.templateBytes) :
    readTable limits files current path = .ok Settings.templateTable :=
  (readTable_of_text hread).trans (congrArg (Except.mapError _) (Settings.parse_template limits))

/-- A layer in the place of another: the same one, or the template where there was none. -/
inductive Layer.Renews : (before after : Option Layer) → Prop
  | same (layer : Option Layer) : Renews layer layer
  | template (source : String) : Renews none (some (.ofTemplate source))

namespace Layer.Renews

variable {before after : Option Layer}

theorem fits (h : Renews before after) (hfits : ∀ layer ∈ before.toList, layer.Fits) :
    ∀ layer ∈ after.toList, layer.Fits := by
  cases h with
  | same => exact hfits
  | template source =>
      intro layer hlayer
      rw [List.mem_singleton.mp hlayer]
      exact ofTemplate_fits source

theorem foldl_lay (h : Renews before after) (profile : Profile) :
    after.toList.foldl Profile.lay profile = before.toList.foldl Profile.lay profile := by
  cases h with
  | same => rfl
  | template source => exact profile.lay_ofTemplate source

end Layer.Renews

end Layers

namespace Host

variable {host : Host} {files : FileTree} {usual : Option Layer}

/-- The user's layer is there just if the user's file is. -/
theorem userLayer_cases (husual : host.userLayer = .ok usual) :
    host.userSettings = .ok none ∧ usual = none ∧
      host.files.isThere host.current host.userFile = .ok false ∨
    host.userSettings = .ok (some host.userFile) ∧
      host.files.isThere host.current host.userFile = .ok true := by
  unfold userLayer at husual
  unfold userSettings at husual ⊢
  cases hthere : host.files.isThere host.current host.userFile with
  | error fault =>
      rw [hthere] at husual
      cases husual
  | ok there =>
      rw [hthere] at husual
      cases there with
      | false =>
          cases husual
          exact .inl ⟨rfl, rfl, rfl⟩
      | true => exact .inr ⟨rfl, rfl⟩

/-- A user's file that was found is found again. -/
theorem userLayer_within (hwithin : host.files.Within files) (husual : host.userLayer = .ok usual)
    (hthere : host.files.isThere host.current host.userFile = .ok true) :
    { host with files := files }.userLayer = .ok usual := by
  have hsettings : host.userSettings = .ok (some host.userFile) := by
    rw [userSettings, hthere]
    rfl
  have hagain : { host with files := files }.userSettings = .ok (some host.userFile) := by
    rw [userSettings]
    simp only [hwithin.isThere_eq hthere]
    rfl
  rw [userLayer, hsettings] at husual
  rw [userLayer, hagain]
  exact Loading.layerOf_within hwithin husual

theorem userLayer_template
    (hread : files.read host.current host.userFile = .ok Settings.templateBytes) :
    { host with files := files }.userLayer = .ok (some (.ofTemplate host.userFile.render)) :=
  userLayer_of_text hread (Settings.parse_template _)

end Host

namespace Search

variable {files grown : FileTree} {place current : Location} {start : Path}

/-- Whether anything is at the paths that the search looks at in a directory is as it was before. -/
def Alike (files grown : FileTree) (directory : Location) : Prop :=
  ∀ name ∈ lookedFor, grown.isThere [] (.ofLocation (directory ++ [name])) =
    files.isThere [] (.ofLocation (directory ++ [name]))

theorem look_alike {directory : Location} (hwithin : files.Within grown)
    (h : Alike files grown directory) : look grown directory = look files directory := by
  have hpreferred : grown.isFile [] (preferredPath directory) =
      files.isFile [] (preferredPath directory) :=
    hwithin.isFile_eq (h _ (by simp [lookedFor, fileNames]))
  have hplain : grown.isFile [] (plainPath directory) = files.isFile [] (plainPath directory) :=
    hwithin.isFile_eq (h _ (by simp [lookedFor, fileNames]))
  have hmark : isProjectRoot grown directory = isProjectRoot files directory :=
    congrArg (Except.mapError _) (h projectMark (by simp [lookedFor]))
  simp only [look, inDirectory_eq, firstFile, hpreferred, hplain, hmark]

/-- In a directory that is reached the looks come to the same if the same stands there by the names
that the search looks for. -/
theorem alike_of_reached {directory : Location} (hreached : files.Reached directory)
    (hopen : files.denial? directory .search = none) (hwithin : files.Within grown)
    (hsizes : ∀ name ∈ lookedFor,
      ¬FileTree.pathLimit < (Path.ofLocation (directory ++ [name])).render.utf8ByteSize)
    (hstands : ∀ name ∈ lookedFor, ∃ found, files.Stands (directory ++ [name]) found)
    (hsame : ∀ name ∈ lookedFor,
      grown.node? (directory ++ [name]) = files.node? (directory ++ [name])) :
    Alike files grown directory := by
  intro name hmem
  have hentries : ∀ name ∈ lookedFor, FileTree.IsEntryName name := by decide
  have hname := hentries name hmem
  obtain ⟨found, hfound⟩ := hstands name hmem
  rw [FileTree.isThere, FileTree.isThere, hreached.leadsTo_eq hname hopen (hsizes name hmem) hfound]
  exact (hwithin.reached hreached).leadsTo_eq hname (hwithin.open hopen) (hsizes name hmem)
    (hfound.of_eq (hsame name hmem))

/-- Where nothing has appeared that the search looks for, it comes to the same end. -/
theorem firstIn_alike (hwithin : files.Within grown) {directories : List Location}
    (h : ∀ directory ∈ directories, Alike files grown directory) :
    firstIn grown directories = firstIn files directories := by
  induction directories with
  | nil => rfl
  | cons directory directories ih =>
      rw [firstIn_cons, firstIn_cons, look_alike hwithin (h directory List.mem_cons_self),
        ih fun other hother => h other (List.mem_cons_of_mem _ hother)]

end Search

namespace Host

variable {host : Host} {files : FileTree}

theorem projectSettings_alike (hwithin : host.files.Within files)
    (h : ∀ directory ∈ Search.directories host.current, Search.Alike host.files files directory) :
    { host with files := files }.projectSettings here = host.projectSettings here := by
  rw [projectSettings_here, projectSettings_here]
  exact Search.firstIn_alike hwithin h

end Host

end Sexpr
