import Sexpr.Proofs.Command.Reporting
import Sexpr.Proofs.Files.Making
import Sexpr.Proofs.Settings.Regrowth

/-!
Creating a settings file. Whatever comes of it, all that is in the file tree stays there as it is.
Either one new file with the template is at its place, in directories that were made for it, or the
tree is the same as before and it is told why; but where a directory has to be made and cannot be,
nothing is told.
-/

namespace Sexpr

namespace FileTree

variable {before after grown : FileTree} {current place : Location} {path : Path}
  {content : List UInt8} {Allowed : Location → Node → Prop}

/-- A file is put at a path that led nowhere. All that was there before is there, and what is new
beside the file is allowed to be. -/
structure Puts (before after : FileTree) (current : Location) (path : Path) (content : List UInt8)
    (Allowed : Location → Node → Prop) : Prop where
  absent : before.isThere current path = .ok false
  readable : after.read current path = .ok content
  within : before.Within after
  fresh : ∃ place, before.node? place = none ∧ after.node? place = some (.file content) ∧
    ∀ other node, other ≠ place → before.node? other = none → after.node? other = some node →
      Allowed other node

/-- A file is put into a tree that may have grown for it. -/
theorem puts_put (content : List UInt8) (habsent : before.isThere current path = .ok false)
    (hwithin : before.Within grown)
    (hadded : ∀ other node, before.node? other = none → grown.node? other = some node →
      Allowed other node)
    (hlocate : grown.locate .look current path = .ok (.free place))
    (hfree : grown.node? place = none) :
    Puts before (grown.put place (.file content)) current path content Allowed := by
  have hput := node?_put grown (ne_root_of_free hfree) (.file content)
  refine ⟨habsent, read_put hlocate hfree content, hwithin.trans (within_put hfree _), place,
    ?_, (hput place).trans (if_pos rfl), ?_⟩
  · apply Option.eq_none_iff_forall_not_mem.mpr
    intro node hnode
    have hthere := hwithin.node place node hnode
    rw [hfree] at hthere
    cases hthere
  · intro other node hother hold hnew
    rw [hput, if_neg hother] at hnew
    exact hadded other node hold hnew

/-- The way along a path comes to a name under which a directory is needed, and none is there or can
be made there. -/
def Barred (tree : FileTree) (current : Location) (path : Path) : Prop :=
  ∃ depth, depth + 1 < path.parts.length ∧
    ∃ location name, tree.Bars current path depth location name

end FileTree

namespace Host

/-- The files of a machine as a file system has them: whatever stands anywhere stands in a
directory, and the current directory is one of them. -/
structure IsSound (host : Host) : Prop where
  nested : host.files.Nested
  present : host.files.node? host.current = some .directory

/-- The files are sound if every entry of them stands in a directory. -/
theorem isSound_of_entries {host : Host}
    (hentries : host.files.nodes.all (fun (location, _) =>
      host.files.node? location.dropLast = some .directory) = true)
    (hpresent : host.files.node? host.current = some .directory) : host.IsSound := by
  refine ⟨?_, hpresent⟩
  intro location name hthere
  obtain ⟨node, hnode⟩ := Option.ne_none_iff_exists'.mp hthere
  rw [FileTree.node?, if_neg (by simp)] at hnode
  obtain ⟨front, back, hnodes, -⟩ := List.lookup_eq_some_iff.mp hnode
  have hmem : (location ++ [name], node) ∈ host.files.nodes := by
    rw [hnodes]
    exact List.mem_append_right front List.mem_cons_self
  have hchecked := of_decide_eq_true (List.all_eq_true.mp hentries _ hmem)
  rwa [List.dropLast_concat] at hchecked

theorem IsSound.node?_startOf {host : Host} (h : host.IsSound) (path : Path) :
    host.files.node? (FileTree.startOf host.current path) = some .directory := by
  unfold FileTree.startOf
  split
  · exact h.present
  · rfl

end Host

section Complaints

namespace Journal

variable {journal : Journal}

def tell (journal : Journal) : Event → Journal
  | .complaint text => journal.write 0 text
  | .record entry => journal.log .unknown entry
  | _ => journal

theorem length_texts_hand (site : Circumstances) (entry : Record) (journal : Journal)
    (handler : Handler) :
    (journal.hand site entry handler).texts.length = journal.texts.length := by
  unfold hand
  split
  · split
    · split
      · exact List.length_modify ..
      · rfl
    · rfl
  · rfl

theorem length_texts_log (journal : Journal) (site : Circumstances) (entry : Record) :
    (journal.log site entry).texts.length = journal.texts.length := by
  have hfold (handlers : List Handler) (journal : Journal) :
      (handlers.foldl (hand site entry) journal).texts.length = journal.texts.length := by
    induction handlers generalizing journal with
    | nil => rfl
    | cons handler handlers ih => exact (ih _).trans (length_texts_hand site entry journal handler)
  unfold log
  split
  · exact hfold journal.handlers journal
  · rfl

theorem length_texts_tell (events : List Event) :
    (events.foldl tell journal).texts.length = journal.texts.length := by
  induction events generalizing journal with
  | nil => rfl
  | cons event events ih =>
      have hstep : (journal.tell event).texts.length = journal.texts.length := by
        cases event with
        | complaint text => exact List.length_modify ..
        | record entry => exact length_texts_log journal .unknown entry
        | output | warning => rfl
      exact ih.trans hstep

/-- Complaints are written behind all that is on the only stream. -/
theorem join_streams_tell (hone : journal.texts.length = 1) (messages : List String) :
    String.join ((messages.map Event.complaint).foldl tell journal).streams =
      String.join journal.streams ++ String.join messages := by
  induction messages generalizing journal with
  | nil => simp
  | cons message messages ih =>
      have hwritten : (journal.write 0 message).texts.length = 1 :=
        (List.length_modify ..).trans hone
      obtain ⟨only, honly⟩ := List.length_eq_one_iff.mp hone
      have hjoin : String.join (journal.write 0 message).streams =
          String.join journal.streams ++ message := by
        simp [write, streams, honly]
      rw [List.map_cons, List.foldl_cons, tell, ih hwritten, hjoin, String.join_cons,
        String.append_assoc]

end Journal

theorem Transcript.complaints_eq (outlet : Option (Severity × Layout)) (transcript : Transcript) :
    transcript.complaints outlet =
      String.join (transcript.events.foldl Journal.tell (.ofOutlet outlet)).streams :=
  rfl

/-- What a transcript complains of at its end comes last. -/
theorem Transcript.complaints_append (outlet : Option (Severity × Layout)) (events : List Event)
    (messages : List String) (ending : Ending) (files : FileTree) :
    ∃ logged, complaints outlet ⟨events ++ messages.map .complaint, ending, files⟩ =
      logged ++ String.join messages := by
  have hone : (Journal.ofOutlet outlet).texts.length = 1 := by
    cases outlet <;> rfl
  refine ⟨String.join (events.foldl Journal.tell (.ofOutlet outlet)).streams, ?_⟩
  rw [complaints_eq, List.foldl_append, Journal.join_streams_tell]
  exact (Journal.length_texts_tell events).trans hone

end Complaints

namespace Command

open Settings (templateBytes)

variable {host : Host} {files : FileTree} {target : Path} {user there : Bool}

theorem within_writeTemplate (host : Host) (files : FileTree) (target : Path) :
    files.Within (writeTemplate host files target).files := by
  unfold writeTemplate
  split
  · exact .refl files
  · exact .refl files
  next habsent =>
    split
    · exact .refl files
    next hwrite => exact FileTree.within_write habsent hwrite

/-- However creating a settings file ends, nothing that was there before is lost or changed. -/
theorem within_createTemplate (host : Host) (user : Bool) :
    host.files.Within (createTemplate host user).files := by
  unfold createTemplate
  split
  · have hmade := FileTree.within_makeDirectories host.files host.current
      (templateTarget host user) ((templateTarget host user).parts.length - 1)
    simp only
    split
    next stop hstop =>
      rw [hstop] at hmade
      exact hmade
    next grown hgrown =>
      rw [hgrown] at hmade
      exact hmade.trans (within_writeTemplate host grown _)
  · exact within_writeTemplate host host.files _

/-- Where a path leads to a free place, the template is written there. -/
theorem writeTemplate_of_free {place : Location}
    (hlocate : ∀ aim, files.locate aim host.current target = .ok (.free place))
    (hwritable : files.denial? place.dropLast .write = none) :
    (writeTemplate host files target).ending = .exit 0 ∧
      (writeTemplate host files target).files = files.put place (.file templateBytes) := by
  have habsent : files.isThere host.current target = .ok false := by
    rw [FileTree.isThere, FileTree.leadsTo, hlocate]
  have hwrite : files.write host.current target templateBytes =
      .ok (files.put place (.file templateBytes)) := by
    simp only [FileTree.write, hlocate, FileTree.unlessDenied, hwritable]
  rw [templateBytes] at hwrite ⊢
  simp only [writeTemplate, habsent, hwrite, and_self]

/-- What may be new beside the template: the directories on the way to the user's file. -/
def IsParent (user : Bool) (after : FileTree) (current : Location) (target : Path)
    (place : Location) (node : Node) : Prop :=
  user = true ∧ node = .directory ∧
    after.IsAlong current target (target.parts.length - 1) place

/-- Why the template is not put at a path, and how that is told. -/
inductive Refusal (files : FileTree) (current : Location) (target : Path) :
    (message : String) → Prop
  | taken (h : files.isThere current target = .ok true) : Refusal files current target
      ("Error: Config file already exists: " ++ target.render ++ "\n" ++
        "Remove it first or edit manually.\n")
  | unwritable {fault : OsFault} (habsent : files.isThere current target = .ok false)
      (h : files.write current target templateBytes = .error fault) : Refusal files current target
      ("Error writing config file: " ++ fault.message target ++ "\n")

/-- Creating ends well, with the template put at a path, or it is told why not and all stays. -/
def IsSettled (host : Host) (user : Bool) (target : Path) (done : Transcript) : Prop :=
  (done.ending = .exit 0 ∧ host.files.Puts done.files host.current target templateBytes
    (IsParent user done.files host.current target)) ∨
  ∃ messages, done = ⟨messages.map .complaint, .exit 1, host.files⟩ ∧
    Refusal host.files host.current target (String.join messages)

/-- Where it can be told whether a path leads anywhere, the template is written or it is told why
not. -/
theorem isSettled_writeTemplate (user : Bool)
    (hthere : host.files.isThere host.current target = .ok there) :
    IsSettled host user target (writeTemplate host host.files target) := by
  cases there with
  | true =>
      refine .inr ⟨["Error: Config file already exists: " ++ target.render ++ "\n",
        "Remove it first or edit manually.\n"], ?_, ?_⟩
      · simp only [writeTemplate, hthere, List.map_cons, List.map_nil]
      · rw [String.join_cons, String.join_cons, String.join_nil, String.append_empty]
        exact .taken hthere
  | false =>
      cases hwrite : host.files.write host.current target templateBytes with
      | error fault =>
          refine .inr ⟨["Error writing config file: " ++ fault.message target ++ "\n"], ?_, ?_⟩
          · rw [templateBytes] at hwrite
            simp only [writeTemplate, hthere, hwrite, List.map_cons, List.map_nil]
          · rw [String.join_cons, String.join_nil, String.append_empty]
            exact .unwritable hthere hwrite
      | ok written =>
          obtain ⟨place, hlocate, hfree, rfl⟩ := FileTree.exists_free_of_write hthere hwrite
          rw [templateBytes] at hwrite
          simp only [writeTemplate, hthere, hwrite]
          refine .inl ⟨rfl, ?_⟩
          apply FileTree.puts_put templateBytes hthere (.refl host.files) _ hlocate hfree
          intro other node hold hnew
          rw [hold] at hnew
          cases hnew

/-- The user's file is created once its directories are made. -/
theorem createTemplate_user (host : Host) :
    createTemplate host true =
      match host.files.makeDirectories host.current host.userFile
          (host.userFile.parts.length - 1) with
      | .error stop => ⟨[], .broken (.files stop.fault stop.path), stop.files⟩
      | .ok files => writeTemplate host files host.userFile :=
  rfl

theorem createTemplate_user_of_free {grown : FileTree} {place : Location}
    (hgrown : host.files.makeDirectories host.current host.userFile
      (host.userFile.parts.length - 1) = .ok grown)
    (hlocate : ∀ aim, grown.locate aim host.current host.userFile = .ok (.free place))
    (hwritable : grown.denial? place.dropLast .write = none) :
    (createTemplate host true).ending = .exit 0 ∧
      (createTemplate host true).files = grown.put place (.file templateBytes) := by
  rw [createTemplate_user, hgrown]
  exact writeTemplate_of_free hlocate hwritable

/-- Where the way to the user's file is barred, nothing is made and nothing is told. -/
theorem createTemplate_of_barred (hplain : host.userFile.IsPlain)
    (hthere : host.files.isThere host.current host.userFile = .ok there)
    (hbarred : host.files.Barred host.current host.userFile) :
    ∃ fault path, createTemplate host true = ⟨[], .broken (.files fault path), host.files⟩ := by
  obtain ⟨depth, hdepth, location, name, hbars⟩ := hbarred
  obtain ⟨stop, hstop, hfiles⟩ := FileTree.makeDirectories_of_bars
    (FileTree.size_of_isThere hthere) hplain hbars (Nat.lt_sub_of_add_lt hdepth) (Nat.sub_le _ 1)
  refine ⟨stop.fault, stop.path, ?_⟩
  rw [createTemplate_user, hstop, ← hfiles]

/-- Where a directory on the way to the user's file is missing, the file is created in the last one
that is made. -/
theorem createTemplate_of_lacks (hsound : host.IsSound) (hplain : host.userFile.IsPlain)
    (hwhole : host.userFile.render.utf8ByteSize ≤ FileTree.pathLimit)
    {depth : Nat} {location : Location} {name last : String}
    (hlacks : host.files.Lacks host.current host.userFile depth location name)
    (hdepth : depth < host.userFile.parts.length - 1)
    (hlast : host.userFile.parts[host.userFile.parts.length - 1]? = some last) :
    ∃ grown place, host.files.Makes grown host.current host.userFile
        (host.userFile.parts.length - 1) place ∧
      grown.locate .look host.current host.userFile = .ok (.free (place ++ [last])) ∧
      (createTemplate host true).ending = .exit 0 ∧
      (createTemplate host true).files = grown.put (place ++ [last]) (.file templateBytes) := by
  obtain ⟨grown, place, hgrown, hmakes⟩ := FileTree.makeDirectories_of_lacks hwhole hplain
    hsound.nested (hsound.node?_startOf host.userFile) hlacks hdepth (Nat.sub_le _ 1)
  have hlocate (aim : Aim) : grown.locate aim host.current host.userFile =
      .ok (.free (place ++ [last])) := by
    have hwhere := (hmakes.lacks hlast).locate_eq hwhole hplain aim
    rwa [Nat.sub_add_cancel (by omega), Path.upTo_length] at hwhere
  have hwritable : grown.denial? (place ++ [last]).dropLast .write = none := by
    rw [List.dropLast_concat]
    exact hmakes.granted .write
  exact ⟨grown, place, hmakes, hlocate .look,
    createTemplate_user_of_free hgrown hlocate hwritable⟩

theorem isSettled_user (hsound : host.IsSound) (hplain : host.userFile.IsPlain)
    (hthere : host.files.isThere host.current host.userFile = .ok there)
    (hopen : ¬host.files.Barred host.current host.userFile) :
    IsSettled host true host.userFile (createTemplate host true) := by
  have hwhole := FileTree.size_of_isThere hthere
  have hinside : host.userFile.parts.length - 1 ≤ host.userFile.parts.length := Nat.sub_le _ 1
  obtain ⟨place, hplace⟩ | ⟨depth, hdepth, location, name, hlacks⟩ |
      ⟨depth, hdepth, location, name, hbars⟩ :=
    FileTree.way_cases hwhole (FileTree.admits_of_isThere hwhole hplain hthere) hinside
  · rw [createTemplate_user,
      FileTree.makeDirectories_of_directory hwhole hplain hinside hplace]
    exact isSettled_writeTemplate true hthere
  · obtain ⟨last, hlast⟩ : ∃ last,
        host.userFile.parts[host.userFile.parts.length - 1]? = some last :=
      ⟨_, List.getElem?_eq_getElem (by omega)⟩
    obtain ⟨grown, place, hmakes, hlocate, hending, hfiles⟩ :=
      createTemplate_of_lacks hsound hplain hwhole hlacks hdepth hlast
    refine .inl ⟨hending, ?_⟩
    rw [hfiles]
    apply FileTree.puts_put templateBytes (hlacks.isThere_eq hwhole hplain) hmakes.within _
      hlocate (hmakes.empty last)
    intro other node hold hnew
    obtain ⟨rfl, halong⟩ := hmakes.added other node hold hnew
    exact ⟨rfl, rfl, halong.mono (FileTree.within_put (hmakes.empty last) _) (Nat.le_refl _)⟩
  · exact absurd ⟨depth, Nat.add_lt_of_lt_sub hdepth, location, name, hbars⟩ hopen

/-- Where the way to the file is not barred, the template is written or it is told why not. -/
theorem isSettled_createTemplate (hsound : host.IsSound)
    (hplain : user = true → host.userFile.IsPlain)
    (hthere : host.files.isThere host.current (templateTarget host user) = .ok there)
    (hopen : ¬(user = true ∧ host.files.Barred host.current (templateTarget host user))) :
    IsSettled host user (templateTarget host user) (createTemplate host user) := by
  cases user with
  | false => exact isSettled_writeTemplate false hthere
  | true => exact isSettled_user hsound (hplain rfl) hthere fun hbarred => hopen ⟨rfl, hbarred⟩

/-- Where the settings load, it can be told whether anything is at the place of a new settings
file: loading has looked there. -/
theorem exists_isThere_target {profile : Profile}
    (hload : (host.load Host.here).result = .ok profile) (user : Bool) :
    ∃ there, host.files.isThere host.current (templateTarget host user) = .ok there := by
  obtain ⟨usual, project, husual, hproject, -⟩ := (host.load_ok_iff Host.here profile).mp hload
  cases hthere : host.files.isThere host.current (templateTarget host user) with
  | ok there => exact ⟨there, rfl⟩
  | error fault =>
      cases user with
      | true =>
          have hfault : host.files.isThere host.current host.userFile = .error fault := hthere
          rw [Host.userLayer, Host.userSettings, hfault] at husual
          cases husual
      | false =>
          have hlook := FileTree.leadsTo_eq_error_iff.mp hthere
          have hfile : host.files.isFile [] (Search.preferredPath host.current) = .error fault :=
            FileTree.leadsTo_eq_error_iff.mpr hlook
          have hplace := Host.resolve_here host.files host.current
          have hcomes : Search.ComesTo host.files host.current (Search.Fails host.files fault)
              (Search.preferredPath host.current) :=
            ⟨0, Nat.zero_le _, .preferred hfile, fun nearer h => absurd h (Nat.not_lt_zero nearer)⟩
          have hfails := (Search.project_eq_error_iff rfl hplace _).mpr ⟨fault, _, rfl, hcomes⟩
          rw [Host.projectLayer, Host.projectSettings, hfails] at hproject
          cases hproject

variable {arguments : List String} {lenient paths : Bool}

/-- Once the settings have loaded, a run does what creating a settings file does, and nothing else
that could be seen but for what it says before. -/
theorem run_eq_createTemplate {profile : Profile}
    (hasks : Asks host arguments lenient (.config true paths user))
    (hload : (host.load Host.here).result = .ok profile) :
    ∃ outlet before, run host arguments =
      .ofTranscript outlet ((createTemplate host user).after before) := by
  obtain ⟨verbose, harguments⟩ := hasks
  simp only [run, harguments, performLoaded, hload]
  exact ⟨_, _, rfl⟩

theorem run_init_ends {profile : Profile}
    (hasks : Asks host arguments lenient (.config true paths user))
    (hload : (host.load Host.here).result = .ok profile) :
    (run host arguments).ending = (createTemplate host user).ending ∧
      (run host arguments).files = (createTemplate host user).files := by
  obtain ⟨outlet, before, hrun⟩ := run_eq_createTemplate hasks hload
  rw [hrun]
  exact ⟨rfl, rfl⟩

/-- Nothing that is there is lost or changed when a settings file is created. -/
theorem within_run_init (hasks : Asks host arguments lenient (.config true paths user)) :
    host.files.Within (run host arguments).files := by
  cases hload : (host.load Host.here).result with
  | ok profile =>
      rw [(run_init_ends hasks hload).2]
      exact within_createTemplate host user
  | error fault =>
      cases fault with
      | config fault =>
          rw [run_of_config hasks hload]
          exact .refl host.files
      | broken cause =>
          rw [run_of_broken hasks hload]
          exact .refl host.files

/-- Creating a settings file changes nothing that is there. Once the settings have loaded, either
the run ends with the exit code 0 and has put the template at a path that led nowhere, and besides,
for the user's file, has made directories on the way to it; or it ends with the exit code 1, has
told why, and has left the files as they were. There is one exception: a directory on the way to
the user's file that is not there and cannot be made, because its name is taken by a file or by a
link that leads to no directory, or because nothing may be made where it is missing. Then the run
breaks down, and nothing has changed. -/
theorem run_init (hasks : Asks host arguments lenient (.config true paths user)) :
    let target := templateTarget host user
    let done := run host arguments
    host.files.Within done.files ∧
    ∀ profile, (host.load Host.here).result = .ok profile → host.IsSound →
      (user = true → host.userFile.IsPlain) →
        (¬(user = true ∧ host.files.Barred host.current target) →
          (done.ending = .exit 0 ∧ host.files.Puts done.files host.current target templateBytes
            (IsParent user done.files host.current target)) ∨
          (done.ending = .exit 1 ∧ done.files = host.files ∧
            ∃ logged message, done.complaints = logged ++ message ∧
              Refusal host.files host.current target message)) ∧
        (user = true ∧ host.files.Barred host.current target →
          done.files = host.files ∧ ∃ fault path, done.ending = .broken (.files fault path)) := by
  intro target done
  refine ⟨within_run_init hasks, ?_⟩
  intro profile hload hsound hplain
  obtain ⟨there, hthere⟩ := exists_isThere_target hload user
  obtain ⟨outlet, before, hrun⟩ := run_eq_createTemplate hasks hload
  have hdone : done = .ofTranscript outlet ((createTemplate host user).after before) := hrun
  rw [hdone]
  constructor
  · intro hopen
    obtain ⟨hending, hputs⟩ | ⟨messages, hrefused, hwhy⟩ :=
      isSettled_createTemplate hsound hplain hthere hopen
    · exact .inl ⟨hending, hputs⟩
    · obtain ⟨logged, hlogged⟩ :=
        Transcript.complaints_append outlet before messages (.exit 1) host.files
      rw [hrefused]
      exact .inr ⟨rfl, rfl, logged, _, hlogged, hwhy⟩
  · rintro ⟨rfl, hbarred⟩
    obtain ⟨fault, path, hbroken⟩ := createTemplate_of_barred (hplain rfl) hthere hbarred
    rw [hbroken]
    exact ⟨rfl, fault, path, rfl⟩

/-- The user's settings file is created in two directories that were missing. -/
theorem run_init_user :
    let host : Host := ⟨⟨[(["h"], .directory), (["w"], .directory)], []⟩, ["w"],
      ⟨.slash, ["h", ".config", "lispish", "config.toml"]⟩, "", .plain⟩
    let done := run host ["config", "--init", "--user"]
    done.ending = .exit 0 ∧ host.files.Puts done.files host.current host.userFile templateBytes
      (IsParent true done.files host.current host.userFile) := by
  intro host done
  have hasks : Asks host ["config", "--init", "--user"] false (.config true false true) :=
    ⟨false, by with_unfolding_all rfl⟩
  have hsound : host.IsSound := Host.isSound_of_entries (by decide) (by decide)
  have hplain : host.userFile.IsPlain := by
    rw [Path.IsPlain]
    decide
  have hwhole : host.userFile.render.utf8ByteSize ≤ FileTree.pathLimit := by decide
  have hopen (location : Location) : host.files.denial? location .search = none := ite_self none
  have hhome : host.files.locate .look host.current (host.userFile.upTo 1) =
      .ok (.directory ["h"]) :=
    FileTree.Reached.root.locate_eq (by decide) (hopen _) (by decide) (.directory rfl) .look
  have hlacks : host.files.Lacks host.current host.userFile 1 ["h"] ".config" :=
    ⟨rfl, hhome, hopen _, rfl, ite_self none⟩
  have huser := Host.userSettings_absent (hlacks.isThere_eq hwhole hplain)
  have hproject : host.projectSettings Host.here = .ok none :=
    Host.projectSettings_of_free (.entry .root (by decide) (hopen _) rfl) hopen (by decide)
      (by decide)
  have hload := Host.load_of_absent huser hproject
  have hunbarred : ¬(true = true ∧ host.files.Barred host.current host.userFile) := by
    rintro ⟨-, _, -, _, _, hbars⟩
    exact hlacks.not_bars hwhole hplain hbars
  obtain ⟨-, houtcome⟩ := run_init hasks
  obtain hcreated | ⟨hrefused, -⟩ := (houtcome _ hload hsound fun _ => hplain).1 hunbarred
  · exact hcreated
  · obtain ⟨_, _, -, -, hending, -⟩ :=
      createTemplate_of_lacks hsound hplain hwhole hlacks (by decide) rfl
    rw [(run_init_ends hasks hload).1, hending] at hrefused
    cases hrefused

/-- The user's directory for settings is a file: nothing is told, and there is no exit code. -/
theorem run_init_barred :
    let host : Host := ⟨⟨[(["h"], .directory), (["h", ".config"], .file []), (["w"], .directory)],
      []⟩, ["w"], ⟨.slash, ["h", ".config", "lispish", "config.toml"]⟩, "", .plain⟩
    (∃ profile, (host.load Host.here).result = .ok profile) ∧ host.IsSound ∧
      (∀ code, (run host ["config", "--init", "--user"]).ending ≠ .exit code) := by
  intro host
  have hasks : Asks host ["config", "--init", "--user"] false (.config true false true) :=
    ⟨false, by with_unfolding_all rfl⟩
  have hplain : host.userFile.IsPlain := by
    rw [Path.IsPlain]
    decide
  have hwhole : host.userFile.render.utf8ByteSize ≤ FileTree.pathLimit := by decide
  have hopen (location : Location) : host.files.denial? location .search = none := ite_self none
  have hreached : host.files.Reached ["h"] := .entry .root (by decide) (hopen _) rfl
  have hhome : host.files.locate .look host.current (host.userFile.upTo 1) =
      .ok (.directory ["h"]) :=
    FileTree.Reached.root.locate_eq (by decide) (hopen _) (by decide) (.directory rfl) .look
  have hfile : host.files.locate .look host.current (host.userFile.upTo 2) =
      .ok (.file ["h", ".config"] []) :=
    hreached.locate_eq (by decide) (hopen _) (by decide) (.file rfl) .look
  have hclosed (place : Location) :
      host.files.locate .look host.current (host.userFile.upTo 2) ≠ .ok (.directory place) := by
    rw [hfile]
    intro h
    cases h
  have htaken : host.files.node? (["h"] ++ [".config"]) ≠ none := by decide
  have hbars : host.files.Bars host.current host.userFile 1 ["h"] ".config" :=
    ⟨rfl, hhome, hopen _, fun hfree => absurd hfree htaken, hclosed⟩
  have hthere : host.files.isThere host.current host.userFile = .ok false := by
    have hbeyond : host.files.locate .look host.current (host.userFile.upTo 4) = .error _ :=
      FileTree.locate_beyond hwhole hclosed (by decide) (by decide)
    rw [hfile, show host.userFile.upTo 4 = host.userFile from rfl] at hbeyond
    rw [FileTree.isThere, FileTree.leadsTo, hbeyond]
    rfl
  have hproject : host.projectSettings Host.here = .ok none :=
    Host.projectSettings_of_free (.entry .root (by decide) (hopen _) rfl) hopen (by decide)
      (by decide)
  have hload := Host.load_of_absent (Host.userSettings_absent hthere) hproject
  refine ⟨⟨_, hload⟩, Host.isSound_of_entries (by decide) (by decide), ?_⟩
  obtain ⟨fault, path, hbroken⟩ :=
    createTemplate_of_barred hplain hthere ⟨1, by decide, ["h"], ".config", hbars⟩
  intro code
  rw [(run_init_ends hasks hload).1, hbroken]
  intro h
  cases h

end Command

end Sexpr
