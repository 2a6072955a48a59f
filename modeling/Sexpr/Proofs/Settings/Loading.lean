import Sexpr.Proofs.Files.Growth
import Sexpr.Proofs.Settings.Slots
import Sexpr.Proofs.Text.Encoding
import Sexpr.Settings.Load

/-!
Loading settings lays at most two layers over the defaults, that of the user's file and that of the
project's. It ends well if both files can be read and all that they ask for fits. Of such a layer
every key is assigned what its table says about the key.
-/

namespace Sexpr

namespace Layer

def Fits (layer : Layer) : Prop :=
  ∀ request ∈ layer.table.requests, request.fits = true

instance (layer : Layer) : Decidable layer.Fits :=
  inferInstanceAs (Decidable (∀ request ∈ layer.table.requests, request.fits = true))

theorem Fits.passed_eq {layer : Layer} (h : layer.Fits) :
    layer.table.passed Section.all = Slot.all := by
  refine List.takeWhile_eq_self_iff.mpr fun slot hslot => ?_
  rw [Entries.misfits]
  cases hrequest : layer.table.requestAt? slot with
  | none => rfl
  | some request =>
    have hmem : request ∈ layer.table.requests := by
      rw [Entries.requests_eq]
      exact List.mem_filterMap.mpr ⟨slot, hslot, hrequest⟩
    rw [Option.any_some, h request hmem]
    rfl

/-- A layer of which everything fits assigns to each key what it says about the key. -/
theorem Fits.lastTo_assignments {layer : Layer} (h : layer.Fits) (key : Key) :
    lastTo key layer.assignments = layer.says? key := by
  rw [Layer.lastTo_assignments, h.passed_eq]
  exact if_pos (Slot.mem_all _)

theorem merge_fault_eq_none_iff (layer : Layer) (profile : Profile) :
    (profile.merge layer.source layer.table).fault = none ↔ layer.Fits := by
  rw [Profile.merge_fault, Option.map_eq_none_iff, List.find?_eq_none]
  simp [Fits]

end Layer

namespace Loading

def layerOf (limits : Limits) (files : FileTree) (current : Location) :
    (found : Except Breakdown (Option Path)) → Except LoadFault (Option Layer)
  | .error cause => .error (.broken cause)
  | .ok none => .ok none
  | .ok (some path) =>
    (readTable limits files current path).map fun table => some ⟨path.render, table⟩

theorem andThen_ok_iff {first : Loading} {next : Profile → Loading} {after : Profile} :
    (first.andThen next).result = .ok after ↔
      ∃ between, first.result = .ok between ∧ (next between).result = .ok after := by
  rw [andThen]
  cases hfirst : first.result with
  | error fault => simp [hfirst]
  | ok between => simp

theorem layer_ok_iff (limits : Limits) (files : FileTree) (current : Location)
    (before after : Profile) (path : Path) :
    (layer limits files current before path).result = .ok after ↔
      ∃ table, readTable limits files current path = .ok table ∧ Layer.Fits ⟨path.render, table⟩ ∧
        after = before.lay ⟨path.render, table⟩ := by
  rw [layer]
  cases readTable limits files current path with
  | error fault => simp
  | ok table =>
    have hfits := Layer.merge_fault_eq_none_iff ⟨path.render, table⟩ before
    cases hfault : (before.merge path.render table).fault with
    | none => simp [← hfits, hfault, Profile.lay, eq_comm]
    | some fault => simp [← hfits, hfault]

theorem layerFound_ok_iff (limits : Limits) (files : FileTree) (current : Location)
    (found : Except Breakdown (Option Path)) (before after : Profile) :
    (layerFound limits files current found before).result = .ok after ↔
      ∃ layer, layerOf limits files current found = .ok layer ∧
        (∀ there ∈ layer.toList, there.Fits) ∧ after = layer.toList.foldl Profile.lay before := by
  match found with
  | .error cause => simp [layerFound, layerOf]
  | .ok none => simp [layerFound, layerOf, eq_comm]
  | .ok (some path) =>
    rw [layerFound, layer_ok_iff, layerOf]
    cases readTable limits files current path with
    | error fault => simp [Except.map]
    | ok table => simp [Except.map]

/-- The file of a text in UTF-8 is parsed as the text is. -/
theorem readTable_of_text {limits : Limits} {files : FileTree} {current : Location} {path : Path}
    {text : String}
    (hread : files.read current path = .ok text.toUTF8.toList) :
    readTable limits files current path =
      (Toml.parse limits text.toList).mapError (.ofToml path text.toList) := by
  rw [readTable, hread]
  simp only [Text.Utf8.decode_toUTF8]

end Loading

namespace Host

def userLayer (host : Host) : Except LoadFault (Option Layer) :=
  Loading.layerOf host.platform.limits host.files host.current host.userSettings

def projectLayer (host : Host) (start : Path) : Except LoadFault (Option Layer) :=
  Loading.layerOf host.platform.limits host.files host.current (host.projectSettings start)

theorem userSettings_absent {host : Host}
    (habsent : host.files.isThere host.current host.userFile = .ok false) :
    host.userSettings = .ok none := by
  rw [userSettings, habsent]
  rfl

theorem userLayer_absent {host : Host}
    (habsent : host.files.isThere host.current host.userFile = .ok false) :
    host.userLayer = .ok none := by
  rw [userLayer, userSettings_absent habsent]
  rfl

theorem projectLayer_absent {host : Host} {start : Path}
    (habsent : host.projectSettings start = .ok none) : host.projectLayer start = .ok none := by
  rw [projectLayer, habsent]
  rfl

theorem projectLayer_of_text {host : Host} {start path : Path} {text : String} {table : Entries}
    (hfound : host.projectSettings start = .ok (some path))
    (hread : host.files.read host.current path = .ok text.toUTF8.toList)
    (hparse : Toml.parse host.platform.limits text.toList = .ok table) :
    host.projectLayer start = .ok (some ⟨path.render, table⟩) := by
  rw [projectLayer, hfound]
  simp only [Loading.layerOf, Loading.readTable_of_text hread, hparse]
  rfl

theorem userLayer_of_text {host : Host} {text : String} {table : Entries}
    (hread : host.files.read host.current host.userFile = .ok text.toUTF8.toList)
    (hparse : Toml.parse host.platform.limits text.toList = .ok table) :
    host.userLayer = .ok (some ⟨host.userFile.render, table⟩) := by
  rw [userLayer, userSettings, FileTree.isThere_of_read hread]
  simp only [if_true, Loading.layerOf, Loading.readTable_of_text hread, hparse]
  rfl

theorem load_ok_iff (host : Host) (start : Path) (profile : Profile) :
    (host.load start).result = .ok profile ↔
      ∃ user project, host.userLayer = .ok user ∧ host.projectLayer start = .ok project ∧
        (∀ layer ∈ user.toList ++ project.toList, layer.Fits) ∧
          profile = (user.toList ++ project.toList).foldl Profile.lay .default := by
  rw [load, Loading.andThen_ok_iff]
  simp only [Loading.layerFound_ok_iff]
  constructor
  · rintro ⟨between, ⟨user, huser, hfits, rfl⟩, project, hproject, hfits', rfl⟩
    refine ⟨user, project, huser, hproject, ?_, List.foldl_append.symm⟩
    intro layer hlayer
    exact (List.mem_append.mp hlayer).elim (hfits layer) (hfits' layer)
  · rintro ⟨user, project, huser, hproject, hfits, rfl⟩
    refine ⟨_, ⟨user, huser, ?_, rfl⟩, project, hproject, ?_, List.foldl_append⟩
    · exact fun layer hlayer => hfits layer (List.mem_append_left _ hlayer)
    · exact fun layer hlayer => hfits layer (List.mem_append_right _ hlayer)

theorem load_of_absent {host : Host} {start : Path} (huser : host.userSettings = .ok none)
    (hproject : host.projectSettings start = .ok none) :
    (host.load start).result = .ok .default := by
  have huserLayer : host.userLayer = .ok none := by
    rw [userLayer, huser]
    rfl
  exact (host.load_ok_iff start _).mpr
    ⟨none, none, huserLayer, projectLayer_absent hproject, by simp, rfl⟩

end Host

end Sexpr
