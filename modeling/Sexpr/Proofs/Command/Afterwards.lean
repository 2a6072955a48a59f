import Sexpr.Proofs.Command.Creating

/-!
The settings after a settings file was created. The new file sets nothing. As the user's file it
changes no setting, as long as the search for the project's file comes to the same end as before. As
the project's file it is nearer than any other and is preferred to one beside it: what another
project file set is no longer set, and all else stays as it was.
-/

namespace Sexpr

namespace Command

open Settings (templateBytes)

variable {host : Host} {files : FileTree} {target : Path} {user there : Bool} {profile : Profile}
  {usual project : Option Layer}

theorem writeTemplate_of_exit (hexit : (writeTemplate host files target).ending = .exit 0) :
    files.isThere host.current target = .ok false ∧ ∃ place, files.node? place = none ∧
      files.locate .look host.current target = .ok (.free place) ∧
      (writeTemplate host files target).files = files.put place (.file templateBytes) := by
  unfold writeTemplate at hexit ⊢
  split at hexit
  · cases hexit
  · cases hexit
  next habsent =>
    refine ⟨habsent, ?_⟩
    split at hexit
    · cases hexit
    next written hwrite =>
      obtain ⟨place, hlocate, hfree, rfl⟩ := FileTree.exists_free_of_write habsent hwrite
      exact ⟨place, hfree, hlocate, rfl⟩

structure Created (host : Host) (user : Bool) (files : FileTree) : Prop where
  absent : host.files.isThere host.current (templateTarget host user) = .ok false
  within : host.files.Within files
  readable : files.read host.current (templateTarget host user) = .ok templateBytes
  filled : user = false → ∃ place, host.files.node? place = none ∧
    files = host.files.put place (.file templateBytes)

theorem created_of_exit
    (hthere : host.files.isThere host.current (templateTarget host user) = .ok there)
    (hexit : (createTemplate host user).ending = .exit 0) :
    Created host user (createTemplate host user).files := by
  have hwithin := within_createTemplate host user
  cases user with
  | false =>
      obtain ⟨habsent, place, hfree, hlocate, hfiles⟩ := writeTemplate_of_exit hexit
      have hput : (createTemplate host false).files =
          host.files.put place (.file templateBytes) := hfiles
      rw [hput] at hwithin ⊢
      exact ⟨habsent, hwithin, FileTree.read_put hlocate hfree _, fun _ => ⟨place, hfree, rfl⟩⟩
  | true =>
      have hmade := FileTree.within_makeDirectories host.files host.current host.userFile
        (host.userFile.parts.length - 1)
      rw [createTemplate_user] at hexit hwithin ⊢
      cases hgrown : host.files.makeDirectories host.current host.userFile
          (host.userFile.parts.length - 1) with
      | error stop =>
          rw [hgrown] at hexit
          cases hexit
      | ok grown =>
          rw [hgrown] at hexit hwithin hmade
          obtain ⟨habsent, place, hfree, hlocate, hfiles⟩ := writeTemplate_of_exit hexit
          refine ⟨?_, hwithin, ?_, nofun⟩
          -- What is there from the start is still there once the directories are made.
          · cases there with
            | false => exact hthere
            | true =>
                have hstill := FileTree.Within.isThere_eq hmade hthere
                cases habsent.symm.trans hstill
          · simp only [hfiles]
            exact FileTree.read_put hlocate hfree _

theorem created_of_run {arguments : List String} {lenient paths : Bool}
    (hasks : Asks host arguments lenient (.config true paths user))
    (hload : (host.load Host.here).result = .ok profile)
    (hexit : (run host arguments).ending = .exit 0) :
    Created host user (run host arguments).files := by
  obtain ⟨there, hthere⟩ := exists_isThere_target hload user
  obtain ⟨hending, hfiles⟩ := run_init_ends hasks hload
  rw [hending] at hexit
  rw [hfiles]
  exact created_of_exit hthere hexit

namespace Created

/-- Behind the new file the user's layer is the one that was there, or the template's. -/
theorem exists_renewed (h : Created host user files) (husual : host.userLayer = .ok usual) :
    ∃ renewed, { host with files := files }.userLayer = .ok renewed ∧
      Layer.Renews usual renewed := by
  obtain ⟨hsettings, rfl, habsent⟩ | ⟨-, hthere⟩ := Host.userLayer_cases husual
  · cases user with
    | true => exact ⟨_, Host.userLayer_template h.readable, .template _⟩
    | false =>
        obtain ⟨place, hfree, rfl⟩ := h.filled rfl
        obtain hstill | hread := FileTree.isThere_or_read_put habsent hfree templateBytes
        · exact ⟨none, Host.userLayer_absent hstill, .same none⟩
        · exact ⟨_, Host.userLayer_template hread, .template _⟩
  · exact ⟨usual, Host.userLayer_within h.within husual hthere, .same usual⟩

/-- A new file of the project is the one that the search comes to. -/
theorem projectSettings_eq (h : Created host false files) :
    { host with files := files }.projectSettings Host.here =
      .ok (some (Search.preferredPath host.current)) :=
  Host.projectSettings_of_read h.readable

/-- With a new file of the project only the user's file says anything. -/
theorem load_project (h : Created host false files) (husual : host.userLayer = .ok usual)
    (hfits : ∀ layer ∈ usual.toList, layer.Fits) :
    ({ host with files := files }.load Host.here).result =
      .ok (usual.toList.foldl Profile.lay .default) := by
  obtain ⟨renewed, hrenewed, hrenews⟩ := h.exists_renewed husual
  have htemplate : { host with files := files }.projectLayer Host.here =
      .ok (some (.ofTemplate (Search.preferredPath host.current).render)) := by
    have htable : Loading.readTable host.platform.limits files host.current
        (Search.preferredPath host.current) = .ok Settings.templateTable :=
      Loading.readTable_template h.readable
    rw [Host.projectLayer, h.projectSettings_eq, Loading.layerOf]
    simp only [htable]
    rfl
  apply (Host.load_ok_iff _ _ _).mpr
  refine ⟨renewed, _, hrenewed, htemplate, ?_, ?_⟩
  · intro layer hlayer
    obtain hlayer | hlayer := List.mem_append.mp hlayer
    · exact hrenews.fits hfits layer hlayer
    · rw [List.mem_singleton.mp hlayer]
      exact Layer.ofTemplate_fits _
  · rw [List.foldl_append, hrenews.foldl_lay]
    exact (Profile.lay_ofTemplate _ _).symm

/-- With a new file of the user all that is set is what was set, if the search for the project's
file comes to the same end. -/
theorem load_user (h : Created host true files)
    (hload : (host.load Host.here).result = .ok profile)
    (hsearch : { host with files := files }.projectSettings Host.here =
      host.projectSettings Host.here) :
    ({ host with files := files }.load Host.here).result = .ok profile := by
  obtain ⟨usual, project, husual, hproject, hfits, rfl⟩ := (Host.load_ok_iff _ _ _).mp hload
  obtain ⟨renewed, hrenewed, hrenews⟩ := h.exists_renewed husual
  have hagain : { host with files := files }.projectLayer Host.here = .ok project := by
    rw [Host.projectLayer, hsearch]
    exact Loading.layerOf_within h.within hproject
  apply (Host.load_ok_iff _ _ _).mpr
  refine ⟨renewed, project, hrenewed, hagain, ?_, ?_⟩
  · intro layer hlayer
    obtain hlayer | hlayer := List.mem_append.mp hlayer
    · have husualFits (there : Layer) (hthere : there ∈ usual.toList) : there.Fits :=
        hfits there (List.mem_append_left _ hthere)
      exact hrenews.fits husualFits layer hlayer
    · exact hfits layer (List.mem_append_right _ hlayer)
  · rw [List.foldl_append, List.foldl_append, hrenews.foldl_lay]

end Created

/-- What a project's file says nothing about is as it is without the file. -/
theorem settings_without_project
    (hfits : ∀ layer ∈ project.toList, layer.Fits) {key : Key}
    (hsilent : project.bind (·.says? key) = none) :
    let after := project.toList.foldl Profile.lay profile
    profile.settings.get key = after.settings.get key ∧
      profile.originOf key.dotted = after.originOf key.dotted := by
  intro after
  obtain ⟨hvalue, horigin⟩ := Profile.foldl_lay_shows project.toList profile key
  have hlast := (Profile.lastTo_assignments_toList hfits key).trans hsilent
  rw [hlast] at hvalue horigin
  refine ⟨hvalue.symm, ?_⟩
  rw [Profile.originOf_dotted, Profile.originOf_dotted, horigin]
  rfl

/-- A settings file that was created changes no setting by what is in it. As the user's file it
changes none at all if the search for the project's file comes to the same end as before, and so it
does if nothing has appeared at the paths where it looks. As the project's file it takes the place
of the one that was found before, if there was one: afterwards the user's file alone decides over
all keys, so that the keys that the other one gave fall back, and all others keep their value and
their origin. -/
theorem load_after_init {arguments : List String} {lenient paths : Bool}
    (hasks : Asks host arguments lenient (.config true paths user))
    (hload : (host.load Host.here).result = .ok profile)
    (hexit : (run host arguments).ending = .exit 0) :
    let later : Host := { host with files := (run host arguments).files }
    (user = true →
      ((∀ directory ∈ Search.directories host.current,
          Search.Alike host.files later.files directory) →
        later.projectSettings Host.here = host.projectSettings Host.here) ∧
      (later.projectSettings Host.here = host.projectSettings Host.here →
        (later.load Host.here).result = .ok profile)) ∧
    (user = false →
      later.projectSettings Host.here = .ok (some (Search.preferredPath host.current)) ∧
      ∃ usual project after, host.userLayer = .ok usual ∧
        host.projectLayer Host.here = .ok project ∧ (later.load Host.here).result = .ok after ∧
        after.Reflects (fun key => usual.bind (·.says? key)) ∧
        ∀ key : Key, project.bind (·.says? key) = none →
          after.settings.get key = profile.settings.get key ∧
            after.originOf key.dotted = profile.originOf key.dotted) := by
  intro later
  have hcreated := created_of_run hasks hload hexit
  constructor
  · rintro rfl
    exact ⟨Host.projectSettings_alike hcreated.within, hcreated.load_user hload⟩
  · rintro rfl
    obtain ⟨usual, project, husual, hproject, hfits, rfl⟩ := (Host.load_ok_iff _ _ _).mp hload
    have husualFits (layer : Layer) (hlayer : layer ∈ usual.toList) : layer.Fits :=
      hfits layer (List.mem_append_left _ hlayer)
    have hreflects := (Profile.foldl_lay_shows usual.toList .default).reflects
    have hlast (key : Key) : lastTo key (usual.toList.flatMap Layer.assignments) =
        usual.bind (·.says? key) := Profile.lastTo_assignments_toList husualFits key
    simp only [hlast] at hreflects
    refine ⟨hcreated.projectSettings_eq, usual, project, _, husual, hproject,
      hcreated.load_project husual husualFits, hreflects, ?_⟩
    intro key hsilent
    have hprojectFits (layer : Layer) (hlayer : layer ∈ project.toList) : layer.Fits :=
      hfits layer (List.mem_append_right _ hlayer)
    rw [List.foldl_append]
    exact settings_without_project hprojectFits hsilent

/-- When directories are made for a file, nothing appears but by the names of its path. -/
theorem node?_of_makes {grown : FileTree} {current place directory : Location} {path : Path}
    {depth : Nat} {name last : String} (hmakes : files.Makes grown current path depth place)
    (hname : name ∉ path.parts) (hlast : last ∈ path.parts) (content : List UInt8) :
    (grown.put (place ++ [last]) (.file content)).node? (directory ++ [name]) =
      files.node? (directory ++ [name]) := by
  have hne : directory ++ [name] ≠ place ++ [last] := by
    intro heq
    obtain rfl : name = last := List.singleton_inj.mp (List.append_inj_right' heq rfl)
    exact hname hlast
  rw [FileTree.node?_put grown (FileTree.ne_root_of_free (hmakes.empty last)), if_neg hne]
  cases hold : files.node? (directory ++ [name]) with
  | some node => exact hmakes.within.node _ _ hold
  | none =>
      cases hnew : grown.node? (directory ++ [name]) with
      | none => rfl
      | some node =>
          obtain ⟨-, front, -, above, other, hnext, hplace, -⟩ := hmakes.added _ _ hold hnew
          obtain rfl : name = other := List.singleton_inj.mp (List.append_inj_right' hplace rfl)
          exact absurd (List.mem_of_getElem? hnext) hname

/-- A project with a lenient parser, whose settings file has the name that is not preferred. -/
def lenientProject : Host :=
  ⟨⟨[(["h"], .directory), (["w"], .directory),
    (["w", "lispish.toml"], .file "[parser]\nstrict = false\n".toUTF8.toList)], []⟩, ["w"],
    ⟨.slash, ["h", ".config", "lispish", "config.toml"]⟩, "", .plain⟩

section LenientProject

theorem searchable_lenientProject (location : Location) :
    lenientProject.files.denial? location .search = none :=
  ite_self none

theorem reached_lenientProject : lenientProject.files.Reached ["w"] :=
  .entry .root (by decide) (searchable_lenientProject _) rfl

theorem isPlain_lenientProject : lenientProject.userFile.IsPlain := by
  rw [Path.IsPlain]
  decide

theorem lacks_lenientProject :
    lenientProject.files.Lacks lenientProject.current lenientProject.userFile 1 ["h"]
      ".config" := by
  refine ⟨rfl, ?_, searchable_lenientProject _, rfl, ite_self none⟩
  exact FileTree.Reached.root.locate_eq (by decide) (searchable_lenientProject _) (by decide)
    (.directory rfl) .look

theorem userSettings_lenientProject : lenientProject.userSettings = .ok none :=
  Host.userSettings_absent (lacks_lenientProject.isThere_eq (by decide) isPlain_lenientProject)

theorem load_lenientProject :
    ∃ profile, (lenientProject.load Host.here).result = .ok profile ∧
      profile.settings = { Settings.default with strict := false } := by
  have hopen := searchable_lenientProject ["w"]
  have hplain : Search.Found lenientProject.files ["w"] (Search.plainPath ["w"]) :=
    .plain (reached_lenientProject.leadsTo_eq (by decide) hopen (by decide) (.free rfl))
      (reached_lenientProject.leadsTo_eq (by decide) hopen (by decide) (.file rfl))
  have hfound : lenientProject.projectSettings Host.here = .ok (some (Search.plainPath ["w"])) :=
    (Search.project_eq_some_iff rfl (Host.resolve_here _ _) _).mpr
      ⟨0, Nat.zero_le _, hplain, nofun⟩
  have hread : lenientProject.files.read lenientProject.current (Search.plainPath ["w"]) =
      .ok "[parser]\nstrict = false\n".toUTF8.toList :=
    FileTree.read_eq_ok_iff.mpr ⟨_, reached_lenientProject.locate_eq (by decide) hopen (by decide)
      (.file rfl) .look, ite_self none⟩
  have hparse : Toml.parse lenientProject.platform.limits "[parser]\nstrict = false\n".toList =
      .ok [("parser", .table [("strict", .flag false)])] := by
    simp only [String.reduceToList]
    with_unfolding_all rfl
  have huser : lenientProject.userLayer = .ok none :=
    congrArg (Loading.layerOf _ _ _) userSettings_lenientProject
  exact ⟨_, (Host.load_ok_iff _ _ _).mpr ⟨none, _, huser,
    Host.projectLayer_of_text hfound hread hparse, by decide, rfl⟩, by with_unfolding_all rfl⟩

end LenientProject

/-- The parser stays lenient when the user's settings file is created. -/
theorem load_after_init_user :
    let done := run lenientProject ["config", "--init", "--user"]
    done.ending = .exit 0 ∧
      ({ lenientProject with files := done.files }.load Host.here).result.map Profile.settings =
        .ok { Settings.default with strict := false } := by
  intro done
  have hasks : Asks lenientProject ["config", "--init", "--user"] false (.config true false true) :=
    ⟨false, by with_unfolding_all rfl⟩
  obtain ⟨profile, hload, hprofile⟩ := load_lenientProject
  have hsound : lenientProject.IsSound := Host.isSound_of_entries (by decide) (by decide)
  obtain ⟨grown, place, hmakes, -, hcreated, hfiles⟩ := createTemplate_of_lacks hsound
    isPlain_lenientProject (by decide) lacks_lenientProject (by decide) rfl
  obtain ⟨hending, hsame⟩ := run_init_ends hasks hload
  have hexit : done.ending = .exit 0 := hending.trans hcreated
  have hwithin : lenientProject.files.Within done.files := within_run_init hasks
  have hnode (directory : Location) : ∀ name ∈ Search.lookedFor,
      done.files.node? (directory ++ [name]) =
        lenientProject.files.node? (directory ++ [name]) := by
    intro name hname
    have hother : ∀ name ∈ Search.lookedFor, name ∉ lenientProject.userFile.parts := by decide
    rw [hsame, hfiles]
    exact node?_of_makes hmakes (hother name hname) (by decide) templateBytes
  have hunmoved : ∀ directory ∈ Search.directories lenientProject.current,
      Search.Alike lenientProject.files done.files directory := by
    have hhere : Search.directories lenientProject.current = [["w"], []] := rfl
    have hnames : Search.lookedFor = [".lispish.toml", "lispish.toml", ".git"] := rfl
    rw [hhere, List.forall_mem_cons, List.forall_mem_singleton]
    constructor
    · refine Search.alike_of_reached reached_lenientProject (searchable_lenientProject _) hwithin
        (by decide) ?_ (hnode _)
      rw [hnames, List.forall_mem_cons, List.forall_mem_cons, List.forall_mem_singleton]
      exact ⟨⟨_, .free rfl⟩, ⟨_, .file rfl⟩, ⟨_, .free rfl⟩⟩
    · refine Search.alike_of_reached .root (searchable_lenientProject _) hwithin (by decide) ?_
        (hnode _)
      rw [hnames, List.forall_mem_cons, List.forall_mem_cons, List.forall_mem_singleton]
      exact ⟨⟨_, .free rfl⟩, ⟨_, .free rfl⟩, ⟨_, .free rfl⟩⟩
  obtain ⟨hsearch, hkept⟩ := (load_after_init hasks hload hexit).1 rfl
  rw [hkept (hsearch hunmoved)]
  exact ⟨hexit, congrArg Except.ok hprofile⟩

/-- The parser is strict again once the project has a settings file by the preferred name. -/
theorem run_init_overrides :
    let done := run lenientProject ["config", "--init"]
    done.ending = .exit 0 ∧ (lenientProject.load Host.here).result.map Profile.settings =
        .ok { Settings.default with strict := false } ∧
      ({ lenientProject with files := done.files }.load Host.here).result.map Profile.settings =
        .ok Settings.default := by
  intro done
  have hasks : Asks lenientProject ["config", "--init"] false (.config true false false) :=
    ⟨false, by with_unfolding_all rfl⟩
  obtain ⟨profile, hload, hprofile⟩ := load_lenientProject
  have husual : lenientProject.userLayer = .ok none :=
    congrArg (Loading.layerOf _ _ _) userSettings_lenientProject
  have hexit : (createTemplate lenientProject false).ending = .exit 0 := by
    have hlocate (aim : Aim) : lenientProject.files.locate aim lenientProject.current
        (templateTarget lenientProject false) = .ok (.free ["w", ".lispish.toml"]) :=
      reached_lenientProject.locate_eq (by decide) (searchable_lenientProject _) (by decide)
        (.free rfl) aim
    exact (writeTemplate_of_free hlocate (ite_self none)).1
  have hending : done.ending = .exit 0 := (run_init_ends hasks hload).1.trans hexit
  have hlater := (created_of_run hasks hload hending).load_project husual
    fun layer hlayer => absurd hlayer List.not_mem_nil
  refine ⟨hending, ?_, ?_⟩
  · rw [hload]
    exact congrArg Except.ok hprofile
  · rw [hlater]
    rfl

end Command

end Sexpr
