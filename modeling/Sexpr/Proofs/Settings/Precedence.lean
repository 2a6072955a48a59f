import Sexpr.Proofs.Settings.Discovery
import Sexpr.Proofs.Settings.Loading

/-!
Which file decides over a key. The last layer that assigns the key does, for the value and for the
origin alike; of loaded settings this is the project's file and after it the user's.
-/

namespace Sexpr

namespace Profile

theorem lastTo_assignments_toList {layer : Option Layer} (h : ∀ there ∈ layer.toList, there.Fits)
    (key : Key) :
    lastTo key (layer.toList.flatMap Layer.assignments) = layer.bind (·.says? key) := by
  cases layer with
  | none => rfl
  | some there =>
    have hfits := h there List.mem_cons_self
    rw [Option.toList_some, List.flatMap_singleton, hfits.lastTo_assignments]
    rfl

/-- The last layer to assign a key decides over its value and its origin, however many layers there
are and wherever their merges end. Loaded settings are made of two layers, of which everything fits:
what the project's file says about a key holds, otherwise what the user's file says. -/
theorem last_assignment_holds :
    (∀ layers : List Layer, (layers.foldl lay default).Reflects fun key =>
      lastTo key (layers.flatMap Layer.assignments)) ∧
    ∀ (host : Host) (start : Path),
      (∀ user project : Option Layer, host.userLayer = .ok user →
        host.projectLayer start = .ok project →
        (∀ layer ∈ user.toList ++ project.toList, layer.Fits) →
          ∃ profile, (host.load start).result = .ok profile ∧ profile.Reflects fun key =>
            (project.bind (·.says? key)).or (user.bind (·.says? key))) ∧
      ∀ profile, (host.load start).result = .ok profile →
        ∃ user project : Option Layer, host.userLayer = .ok user ∧
          host.projectLayer start = .ok project ∧
            ∀ layer ∈ user.toList ++ project.toList, layer.Fits := by
  have hruns : ∀ layers : List Layer, (layers.foldl lay default).Reflects fun key =>
      lastTo key (layers.flatMap Layer.assignments) :=
    fun layers => (foldl_lay_shows layers default).reflects
  refine ⟨hruns, fun host start => ⟨?_, ?_⟩⟩
  · intro user project huser hproject hfits
    have hload := (host.load_ok_iff start _).mpr ⟨user, project, huser, hproject, hfits, rfl⟩
    have hlast : ∀ key, lastTo key ((user.toList ++ project.toList).flatMap Layer.assignments) =
        (project.bind (·.says? key)).or (user.bind (·.says? key)) := by
      intro key
      rw [List.flatMap_append, lastTo_append,
        lastTo_assignments_toList fun layer hlayer => hfits layer (List.mem_append_right _ hlayer),
        lastTo_assignments_toList fun layer hlayer => hfits layer (List.mem_append_left _ hlayer)]
    have hprofile := hruns (user.toList ++ project.toList)
    simp only [hlast] at hprofile
    exact ⟨_, hload, hprofile⟩
  · intro profile hload
    obtain ⟨user, project, huser, hproject, hfits, -⟩ := (host.load_ok_iff start profile).mp hload
    exact ⟨user, project, huser, hproject, hfits⟩

/-- The project's file overrides one of the two keys that the user's file gives. -/
theorem last_assignment_holds_overridden :
    let user := "parser.strict=false\ndefaults.verbose=true"
    let project := "parser.strict=true"
    let host : Host := ⟨⟨[(["c"], .file user.toUTF8.toList),
      ([".lispish.toml"], .file project.toUTF8.toList)], []⟩, [], ⟨.slash, ["c"]⟩, "", .plain⟩
    ∃ profile, (host.load Host.here).result = .ok profile ∧
      profile.settings.get .strict = .flag true ∧
      profile.originOf "parser.strict" = "/.lispish.toml" ∧
      profile.settings.get .verbose = .flag true ∧ profile.originOf "defaults.verbose" = "/c" ∧
      profile.settings.get .kindWidth = .int 42 := by
  intro user project host
  have hopen : host.files.denial? [] .search = none := ite_self none
  have hreads {name : String} {bytes : List UInt8} (hname : FileTree.IsEntryName name)
      (hsize : ¬FileTree.pathLimit < (Path.ofLocation [name]).render.utf8ByteSize)
      (hnode : host.files.node? [name] = some (.file bytes))
      (hreadable : host.files.denial? [name] .read = none) :
      host.files.read [] (.ofLocation [name]) = .ok bytes :=
    FileTree.read_eq_ok_iff.mpr
      ⟨_, FileTree.Reached.root.locate_eq hname hopen hsize (.file hnode) .look, hreadable⟩
  have huser : host.userLayer = .ok (some ⟨"/c",
      [("parser", .table [("strict", .flag false)]),
        ("defaults", .table [("verbose", .flag true)])]⟩) := by
    refine Host.userLayer_of_text (hreads (by decide) (by decide) rfl (ite_self none)) ?_
    simp only [user, String.reduceToList]
    with_unfolding_all rfl
  have hproject : host.projectLayer Host.here = .ok (some
      ⟨"/.lispish.toml", [("parser", .table [("strict", .flag true)])]⟩) := by
    have hread : host.files.read [] (Search.preferredPath []) = .ok project.toUTF8.toList :=
      hreads (by decide) (by decide) rfl (ite_self none)
    refine Host.projectLayer_of_text (Host.projectSettings_of_read hread) hread ?_
    simp only [project, String.reduceToList]
    with_unfolding_all rfl
  obtain ⟨profile, hload, hprofile⟩ :=
    (last_assignment_holds.2 _ Host.here).1 _ _ huser hproject (by decide)
  exact ⟨profile, hload, hprofile.value .strict, hprofile.originOf .strict,
    hprofile.value .verbose, hprofile.originOf .verbose, hprofile.value .kindWidth⟩

end Profile

end Sexpr
