import Sexpr.Proofs.Files.Growth
import Sexpr.Proofs.Files.Looking
import Sexpr.Settings.Load

/-!
Finding the settings file of a project. The search looks into a directory and into those above it,
nearest first: for a settings file by each of its names, and then for the mark of a project's root,
behind which nothing counts. A look tells what is there unless a name or a path on it is too long to
be followed, or a directory on it is not open to search. So a search comes to a settings file, to
its end, or to a look that fails, whichever is nearest.
-/

namespace Sexpr

namespace Search

variable {files : FileTree} {directory place : Location} {path : Path} {fault : OsFault}

/-- The directory so many levels above a place. Above the root is the root. -/
def above (place : Location) : (level : Nat) → Location
  | 0 => place
  | level + 1 => (above place level).dropLast

theorem above_eq_take (place : Location) (level : Nat) :
    above place level = place.take (place.length - level) := by
  induction level with
  | zero => simp [above]
  | succ level ih =>
      rw [above, ih, List.dropLast_eq_take, List.take_take, List.length_take]
      congr 1
      omega

theorem upward_eq (reversed : List String) :
    upward reversed =
      (List.range (reversed.length + 1)).map fun level => (reversed.drop level).reverse := by
  induction reversed with
  | nil => rfl
  | cons name reversed ih =>
      rw [upward, ih, List.length_cons, List.range_succ_eq_map (n := reversed.length + 1)]
      simp

/-- The directories of a search are those of all levels, the nearest first. -/
theorem directories_eq (place : Location) :
    directories place = (List.range (place.length + 1)).map (above place) := by
  rw [directories, upward_eq, List.length_reverse]
  simp [above_eq_take, List.drop_reverse]

/-- What the looks into one directory settle. Nothing is settled where they find neither a settings
file nor the root of a project. -/
def look (files : FileTree) (directory : Location) : Option (Except Breakdown (Option Path)) :=
  match inDirectory files directory with
  | .error cause => some (.error cause)
  | .ok (some path) => some (.ok (some path))
  | .ok none =>
    match isProjectRoot files directory with
    | .error cause => some (.error cause)
    | .ok true => some (.ok none)
    | .ok false => none

/-- One step of a search: the looks into the first directory settle it, or the search goes on. -/
theorem firstIn_cons (files : FileTree) (directory : Location) (directories : List Location) :
    firstIn files (directory :: directories) =
      (look files directory).getD (firstIn files directories) := by
  unfold look
  rw [firstIn]
  cases inDirectory files directory with
  | error cause => rfl
  | ok found =>
      cases found with
      | some path => rfl
      | none =>
          cases isProjectRoot files directory with
          | error cause => rfl
          | ok root => cases root <;> rfl

/-- A whole search is settled by the first directory that settles anything. -/
theorem firstIn_eq (files : FileTree) (directories : List Location) :
    firstIn files directories = (directories.findSome? (look files)).getD (.ok none) := by
  induction directories with
  | nil => rfl
  | cons directory directories ih =>
      rw [firstIn_cons, ih, List.findSome?_cons]
      cases look files directory <;> rfl

def preferredPath (directory : Location) : Path :=
  .ofLocation (directory ++ [".lispish.toml"])

def plainPath (directory : Location) : Path :=
  .ofLocation (directory ++ ["lispish.toml"])

def markPath (directory : Location) : Path :=
  .ofLocation (directory ++ [".git"])

/-- The settings file of a directory is the preferred one if this is a file, otherwise the plain
one. -/
inductive Found (files : FileTree) (directory : Location) : Path → Prop
  | preferred (hpreferred : files.isFile [] (preferredPath directory) = .ok true) :
      Found files directory (preferredPath directory)
  | plain (hpreferred : files.isFile [] (preferredPath directory) = .ok false)
      (hplain : files.isFile [] (plainPath directory) = .ok true) :
      Found files directory (plainPath directory)

structure Bare (files : FileTree) (directory : Location) : Prop where
  preferred : files.isFile [] (preferredPath directory) = .ok false
  plain : files.isFile [] (plainPath directory) = .ok false

/-- The search goes past a directory: no settings file is in it, and no mark of a project's root. -/
structure Passed (files : FileTree) (directory : Location) : Prop where
  bare : Bare files directory
  unmarked : files.isThere [] (markPath directory) = .ok false

def lookedFor : List String :=
  fileNames ++ [projectMark]

/-- A directory is passed if nothing is in it by any name that the search looks for. -/
theorem passed_of_free (hreached : files.Reached directory)
    (hopen : files.denial? directory .search = none)
    (hsizes : ∀ name ∈ lookedFor,
      ¬FileTree.pathLimit < (Path.ofLocation (directory ++ [name])).render.utf8ByteSize)
    (hfree : ∀ name ∈ lookedFor, files.node? (directory ++ [name]) = none) :
    Passed files directory := by
  have hlook {name : String} (hname : FileTree.IsEntryName name) (hmem : name ∈ lookedFor)
      (kind : Place → Bool) :
      files.leadsTo [] (.ofLocation (directory ++ [name])) kind =
        .ok (kind (.free (directory ++ [name]))) :=
    hreached.leadsTo_eq hname hopen (hsizes name hmem) (.free (hfree name hmem))
  exact ⟨⟨hlook (by decide) (by decide) _, hlook (by decide) (by decide) _⟩,
    hlook (by decide) (by decide) _⟩

inductive Fails (files : FileTree) (fault : OsFault) (directory : Location) : Path → Prop
  | preferred (hpreferred : files.isFile [] (preferredPath directory) = .error fault) :
      Fails files fault directory (preferredPath directory)
  | plain (hpreferred : files.isFile [] (preferredPath directory) = .ok false)
      (hplain : files.isFile [] (plainPath directory) = .error fault) :
      Fails files fault directory (plainPath directory)
  | mark (hbare : Bare files directory)
      (hmark : files.isThere [] (markPath directory) = .error fault) :
      Fails files fault directory (markPath directory)

theorem inDirectory_eq (files : FileTree) (directory : Location) :
    inDirectory files directory = firstFile files [preferredPath directory, plainPath directory] :=
  rfl

/-- Without a settings file in it, a directory is settled by the mark of a project's root. -/
theorem Bare.look_eq (h : Bare files directory) :
    look files directory = match files.isThere [] (markPath directory) with
      | .error fault => some (.error (.files fault (markPath directory)))
      | .ok true => some (.ok none)
      | .ok false => none := by
  have hnone : inDirectory files directory = .ok none := by
    simp [inDirectory_eq, firstFile, h.preferred, h.plain]
  have hroot : isProjectRoot files directory =
      (files.isThere [] (markPath directory)).mapError (.files · (markPath directory)) := rfl
  rw [look, hnone, hroot]
  cases files.isThere [] (markPath directory) with
  | error fault => rfl
  | ok root => cases root <;> rfl

theorem Found.look_eq (h : Found files directory path) :
    look files directory = some (.ok (some path)) := by
  cases h with
  | preferred hpreferred => simp [look, inDirectory_eq, firstFile, hpreferred]
  | plain hpreferred hplain => simp [look, inDirectory_eq, firstFile, hpreferred, hplain]

theorem Passed.look_eq (h : Passed files directory) : look files directory = none := by
  rw [h.bare.look_eq, h.unmarked]

theorem Fails.look_eq (h : Fails files fault directory path) :
    look files directory = some (.error (.files fault path)) := by
  cases h with
  | preferred hpreferred => simp [look, inDirectory_eq, firstFile, hpreferred]
  | plain hpreferred hplain => simp [look, inDirectory_eq, firstFile, hpreferred, hplain]
  | mark hbare hmark => rw [hbare.look_eq, hmark]

inductive Settles (files : FileTree) (directory : Location) :
    Option (Except Breakdown (Option Path)) → Prop
  | found {path : Path} (hfound : Found files directory path) :
      Settles files directory (some (.ok (some path)))
  | root (hbare : Bare files directory)
      (hmark : files.isThere [] (markPath directory) = .ok true) :
      Settles files directory (some (.ok none))
  | passed (hpassed : Passed files directory) : Settles files directory none
  | failed {fault : OsFault} {path : Path} (hfails : Fails files fault directory path) :
      Settles files directory (some (.error (.files fault path)))

theorem Found.settles_look (h : Found files directory path) :
    Settles files directory (look files directory) := by
  rw [h.look_eq]
  exact .found h

theorem Fails.settles_look (h : Fails files fault directory path) :
    Settles files directory (look files directory) := by
  rw [h.look_eq]
  exact .failed h

theorem settles_look (files : FileTree) (directory : Location) :
    Settles files directory (look files directory) := by
  match hpreferred : files.isFile [] (preferredPath directory) with
  | .error fault => exact (Fails.preferred hpreferred).settles_look
  | .ok true => exact (Found.preferred hpreferred).settles_look
  | .ok false =>
    match hplain : files.isFile [] (plainPath directory) with
    | .error fault => exact (Fails.plain hpreferred hplain).settles_look
    | .ok true => exact (Found.plain hpreferred hplain).settles_look
    | .ok false =>
      have hbare : Bare files directory := ⟨hpreferred, hplain⟩
      match hmark : files.isThere [] (markPath directory) with
      | .error fault => exact (Fails.mark hbare hmark).settles_look
      | .ok true =>
        rw [hbare.look_eq, hmark]
        exact .root hbare hmark
      | .ok false =>
        rw [hbare.look_eq, hmark]
        exact .passed ⟨hbare, hmark⟩

theorem look_eq_found_iff :
    look files directory = some (.ok (some path)) ↔ Found files directory path := by
  refine ⟨fun h => ?_, Found.look_eq⟩
  have hsettles := settles_look files directory
  rw [h] at hsettles
  cases hsettles with
  | found hfound => exact hfound

theorem look_eq_none_iff : look files directory = none ↔ Passed files directory := by
  refine ⟨fun h => ?_, Passed.look_eq⟩
  have hsettles := settles_look files directory
  rw [h] at hsettles
  cases hsettles with
  | passed hpassed => exact hpassed

theorem look_eq_error_iff {cause : Breakdown} :
    look files directory = some (.error cause) ↔
      ∃ fault path, cause = .files fault path ∧ Fails files fault directory path := by
  constructor
  · intro h
    have hsettles := settles_look files directory
    rw [h] at hsettles
    cases hsettles with
    | failed hfails => exact ⟨_, _, rfl, hfails⟩
  · rintro ⟨fault, path, rfl, hfails⟩
    exact hfails.look_eq

theorem findSome?_range_eq_some_iff {α : Type} (f : Nat → Option α) (count : Nat) {value : α} :
    (List.range count).findSome? f = some value ↔
      ∃ index < count, f index = some value ∧ ∀ earlier < index, f earlier = none := by
  induction count with
  | zero => simp
  | succ count ih =>
      rw [List.range_succ, List.findSome?_append, Option.or_eq_some_iff, ih]
      simp only [List.findSome?_eq_none_iff, List.mem_range, List.findSome?_singleton]
      constructor
      · rintro (⟨index, hindex, hsome⟩ | ⟨hnone, hsome⟩)
        · exact ⟨index, by omega, hsome⟩
        · exact ⟨count, by omega, hsome, hnone⟩
      · rintro ⟨index, hindex, hsome, hnone⟩
        obtain hlt | rfl : index < count ∨ index = count := by omega
        · exact .inl ⟨index, hlt, hsome, hnone⟩
        · exact .inr ⟨hnone, hsome⟩

/-- A search from a place comes to a path: in one of the directories it is there, and the search
goes past all that are nearer. -/
def ComesTo (files : FileTree) (place : Location) (there : Location → Path → Prop) (path : Path) :
    Prop :=
  ∃ level ≤ place.length, there (above place level) path ∧
    ∀ nearer < level, Passed files (above place nearer)

/-- Whatever a search comes to is settled in one of its directories, and in none that is nearer. -/
theorem firstIn_directories_iff {outcome : Except Breakdown (Option Path)}
    (h : outcome ≠ .ok none) :
    firstIn files (directories place) = outcome ↔
      ∃ level ≤ place.length, look files (above place level) = some outcome ∧
        ∀ nearer < level, Passed files (above place nearer) := by
  have hgetD (settled : Option (Except Breakdown (Option Path))) :
      settled.getD (.ok none) = outcome ↔ settled = some outcome := by
    cases settled <;> simp [Ne.symm h]
  rw [firstIn_eq, hgetD, directories_eq, List.findSome?_map, findSome?_range_eq_some_iff]
  simp only [Function.comp_apply, look_eq_none_iff, Nat.lt_succ_iff]

variable {current : Location} {start : Path}

theorem project_eq (hnull : start.parts.any (·.contains '\x00') = false)
    (hplace : files.resolve current start = .ok place) :
    project files current start = firstIn files (directories place) := by
  rw [project, hnull, hplace]
  rfl

theorem project_eq_some_iff (hnull : start.parts.any (·.contains '\x00') = false)
    (hplace : files.resolve current start = .ok place) (path : Path) :
    project files current start = .ok (some path) ↔ ComesTo files place (Found files) path := by
  rw [project_eq hnull hplace, firstIn_directories_iff (by simp)]
  simp only [look_eq_found_iff, ComesTo]

theorem project_eq_error_iff (hnull : start.parts.any (·.contains '\x00') = false)
    (hplace : files.resolve current start = .ok place) (cause : Breakdown) :
    project files current start = .error cause ↔
      ∃ fault path, cause = .files fault path ∧ ComesTo files place (Fails files fault) path := by
  rw [project_eq hnull hplace, firstIn_directories_iff (by simp)]
  simp only [look_eq_error_iff, ComesTo]
  constructor
  · rintro ⟨level, hlevel, ⟨fault, path, rfl, hfails⟩, hpassed⟩
    exact ⟨fault, path, rfl, level, hlevel, hfails, hpassed⟩
  · rintro ⟨fault, path, rfl, level, hlevel, hfails, hpassed⟩
    exact ⟨level, hlevel, ⟨fault, path, rfl, hfails⟩, hpassed⟩

end Search

namespace Host

variable {host : Host}

theorem resolve_here (files : FileTree) (current : Location) :
    files.resolve current here = .ok current := by
  rw [FileTree.resolve, here, FileTree.follow]
  rfl

theorem projectSettings_here (host : Host) :
    host.projectSettings here = Search.firstIn host.files (Search.directories host.current) :=
  Search.project_eq rfl (resolve_here host.files host.current)

/-- A file by the preferred name in the current directory is the project's settings file. -/
theorem projectSettings_of_read {content : List UInt8}
    (hread : host.files.read host.current (Search.preferredPath host.current) = .ok content) :
    host.projectSettings here = .ok (some (Search.preferredPath host.current)) := by
  have hfound : Search.Found host.files host.current (Search.preferredPath host.current) :=
    .preferred (FileTree.isFile_of_read hread)
  exact (Search.project_eq_some_iff rfl (resolve_here host.files host.current) _).mpr
    ⟨0, Nat.zero_le _, hfound, nofun⟩

/-- Where nothing on the way up has a name that the search looks for, it finds nothing. -/
theorem projectSettings_of_free (hreached : host.files.Reached host.current)
    (hopen : ∀ location, host.files.denial? location .search = none)
    (hsizes : ∀ directory ∈ Search.directories host.current, ∀ name ∈ Search.lookedFor,
      ¬FileTree.pathLimit < (Path.ofLocation (directory ++ [name])).render.utf8ByteSize)
    (hfree : ∀ directory ∈ Search.directories host.current, ∀ name ∈ Search.lookedFor,
      host.files.node? (directory ++ [name]) = none) :
    host.projectSettings here = .ok none := by
  have hpassed : ∀ directory ∈ Search.directories host.current,
      Search.look host.files directory = none := by
    intro directory hmem
    have habove : host.files.Reached directory := by
      rw [Search.directories_eq] at hmem
      obtain ⟨level, -, rfl⟩ := List.mem_map.mp hmem
      rw [Search.above_eq_take]
      exact hreached.take _
    exact (Search.passed_of_free habove (hopen _) (hsizes _ hmem) (hfree _ hmem)).look_eq
  rw [projectSettings_here, Search.firstIn_eq, List.findSome?_eq_none_iff.mpr hpassed]
  rfl

end Host

end Sexpr
