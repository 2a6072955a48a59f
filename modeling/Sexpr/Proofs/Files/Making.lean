import Sexpr.Proofs.Files.Growth

/-!
Making the directories of a path. The way along a path comes to a directory, or to a name that is
missing, or to one that is taken by something else or missing where nothing can be made. Which of
the three it is settles what comes of making the directories: nothing is left to do, all that is
missing is made, or nothing is made.
-/

namespace Sexpr

namespace Path

variable {path : Path} {depth : Nat} {component : String}

/-- A path without dots and without names that are too long for a directory. -/
def IsPlain (path : Path) : Prop :=
  ∀ name ∈ path.parts, FileTree.IsEntryName name

section Next

variable (h : path.parts[depth]? = some component)

include h

theorem parts_upTo_succ :
    (path.upTo (depth + 1)).parts = (path.upTo depth).parts ++ [component] := by
  rw [upTo, List.take_add_one, h]
  rfl

theorem parent_upTo_succ : (path.upTo (depth + 1)).parent = path.upTo depth := by
  rw [parent, parts_upTo_succ h, List.dropLast_concat]
  rfl

theorem name_upTo_succ : (path.upTo (depth + 1)).name = component := by
  rw [name, parts_upTo_succ h, List.getLast?_concat, Option.getD_some]

end Next

theorem upTo_length (path : Path) : path.upTo path.parts.length = path := by
  rw [upTo, List.take_length]

theorem size_intercalate_take (separator : String) (names : List String) (count : Nat) :
    (separator.intercalate (names.take count)).utf8ByteSize ≤
      (separator.intercalate names).utf8ByteSize := by
  by_cases hfront : names.take count = []
  · rw [hfront]
    exact Nat.zero_le _
  by_cases hback : names.drop count = []
  · have hwhole := List.take_of_length_le (List.drop_eq_nil_iff.mp hback)
    exact Nat.le_of_eq (congrArg (fun names => (separator.intercalate names).utf8ByteSize) hwhole)
  have hsplit := String.intercalate_append_of_ne_nil (s := separator) hfront hback
  rw [List.take_append_drop] at hsplit
  rw [hsplit, String.utf8ByteSize_append, String.utf8ByteSize_append]
  omega

/-- A front of a path is no longer than the path; only that of no names at all is shown as a dot. -/
theorem size_render_upTo (path : Path) (depth : Nat) :
    (path.upTo depth).render.utf8ByteSize ≤ max 1 path.render.utf8ByteSize := by
  have hjoined := size_intercalate_take "/" path.parts depth
  unfold render upTo
  cases path.anchor with
  | none =>
      simp only
      split
      · exact Nat.le_max_left 1 _
      next hfront =>
        have hparts : path.parts.isEmpty = false := by
          cases hempty : path.parts with
          | nil => simp [hempty] at hfront
          | cons name names => rfl
        rw [hparts]
        exact Nat.le_trans hjoined (Nat.le_max_right 1 _)
  | slash | doubleSlash =>
      simp only [String.utf8ByteSize_append]
      omega

end Path

namespace FileTree

open Sexpr.Path

variable {tree grown : FileTree} {current location : Location} {path : Path} {depth deeper : Nat}
  {aim : Aim} {name : String} {names : List String}

/-- Whatever stands in a tree stands in a directory. -/
def Nested (tree : FileTree) : Prop :=
  ∀ location name, tree.node? (location ++ [name]) ≠ none → tree.node? location = some .directory

theorem Nested.dropLast (h : tree.Nested) (hlocation : tree.node? location = some .directory) :
    tree.node? location.dropLast = some .directory := by
  cases hempty : location.reverse with
  | nil =>
      rw [List.reverse_eq_nil_iff.mp hempty]
      rfl
  | cons name above =>
      obtain rfl : location = above.reverse ++ [name] := by
        rw [← List.reverse_cons, ← hempty, List.reverse_reverse]
      rw [List.dropLast_concat]
      apply h _ name
      rw [hlocation]
      simp

theorem Nested.put (h : tree.Nested) (hlocation : tree.node? location = some .directory)
    (hfree : tree.node? (location ++ [name]) = none) (node : Node) :
    (tree.put (location ++ [name]) node).Nested := by
  intro above below hbelow
  rw [node?_put tree (ne_root_of_free hfree)] at hbelow
  apply (within_put hfree node).node
  split at hbelow
  next heq =>
    rw [List.append_inj_left' heq rfl]
    exact hlocation
  · exact h above below hbelow

/-- Below a free place nothing stands. -/
theorem Nested.free_below (h : tree.Nested) (hfree : tree.node? location = none) (name : String) :
    tree.node? (location ++ [name]) = none := by
  apply Classical.byContradiction
  intro htaken
  have hdirectory := h location name htaken
  rw [hfree] at hdirectory
  cases hdirectory

/-- Where names lead to a directory, there is one. -/
theorem Nested.node?_of_walk (h : tree.Nested) {links : Nat} {place : Location}
    (hstart : tree.node? location = some .directory)
    (hwalk : tree.walk aim links location names = .ok (.directory place)) :
    tree.node? place = some .directory := by
  replace hwalk := leads_iff.mpr hwalk
  generalize hfound : Except.ok (Place.directory place) = found at hwalk
  induction hwalk with
  | arrived =>
      cases hfound
      exact hstart
  | skipped _ ih | here _ _ ih => exact ih hstart hfound
  | above _ _ ih => exact ih (h.dropLast hstart) hfound
  | directory _ _ hnode _ ih => exact ih hnode hfound
  | link _ _ _ _ ih =>
      refine ih ?_ hfound
      unfold startOf
      split
      · exact hstart
      · rfl
  | _ => cases hfound

theorem isDirectory_iff :
    tree.isDirectory current path = .ok true ↔
      ∃ place, tree.locate .look current path = .ok (.directory place) := by
  unfold isDirectory leadsTo
  cases tree.locate .look current path with
  | error fault => by_cases habsent : fault.isAbsence = true <;> simp [habsent]
  | ok place => cases place <;> simp

theorem settle_of_directory {fault : OsFault}
    (h : tree.locate .look current path = .ok (.directory location)) :
    tree.settle current path fault = .ok tree := by
  rw [settle, isDirectory_iff.mpr ⟨location, h⟩]

theorem settle_of_ne_directory
    (h : ∀ place, tree.locate .look current path ≠ .ok (.directory place)) (fault : OsFault) :
    ∃ stop, tree.settle current path fault = .error stop ∧ stop.files = tree := by
  unfold settle
  split
  next hdirectory =>
    obtain ⟨place, hplace⟩ := isDirectory_iff.mp hdirectory
    exact absurd hplace (h place)
  · exact ⟨_, rfl, rfl⟩
  · exact ⟨_, rfl, rfl⟩

section Attempt

def leftBy : Except Standstill FileTree → FileTree
  | .ok made => made
  | .error stop => stop.files

theorem leftBy_settle (fault : OsFault) : leftBy (tree.settle current path fault) = tree := by
  rw [settle]
  cases tree.isDirectory current path with
  | error worse => rfl
  | ok answer => cases answer <;> rfl

theorem within_makeDirectory {made : FileTree} (h : tree.makeDirectory current path = .ok made) :
    tree.Within made := by
  unfold makeDirectory at h
  split at h
  · cases h
  split at h
  next location _ =>
    split at h
    · cases h
    obtain ⟨-, h⟩ := unlessDenied_eq_ok_iff.mp h
    split at h
    · cases h
    split at h
    · cases h
    split at h
    next hfree =>
      obtain ⟨-, h⟩ := unlessDenied_eq_ok_iff.mp h
      cases h
      exact within_put hfree _
    · cases h
  all_goals cases h

/-- However an attempt to make directories ends, all that was there before is there. -/
theorem within_makeDirectories (tree : FileTree) (current : Location) (path : Path) (depth : Nat) :
    tree.Within (leftBy (tree.makeDirectories current path depth)) := by
  induction depth with
  | zero => exact .refl tree
  | succ depth ih =>
      rw [makeDirectories]
      split
      next hmade => exact within_makeDirectory hmade
      · split
        next stop hstop =>
          rw [hstop] at ih
          exact ih
        next grown hgrown =>
          rw [hgrown] at ih
          split
          next hmade => exact ih.trans (within_makeDirectory hmade)
          · rw [leftBy_settle]
            exact ih
      · rw [leftBy_settle]
        exact .refl tree

end Attempt

/-- The way along a path comes to a name that is missing, in a directory where it can be made. -/
structure Lacks (tree : FileTree) (current : Location) (path : Path) (depth : Nat)
    (location : Location) (name : String) : Prop where
  next : path.parts[depth]? = some name
  above : tree.locate .look current (path.upTo depth) = .ok (.directory location)
  searchable : tree.denial? location .search = none
  free : tree.node? (location ++ [name]) = none
  writable : tree.denial? location .write = none

/-- The way along a path comes to a name under which there is no directory and none can be made. It
is taken, but neither by a directory nor by a link that leads to one; or it is missing, in a
directory where nothing may be made. -/
structure Bars (tree : FileTree) (current : Location) (path : Path) (depth : Nat)
    (location : Location) (name : String) : Prop where
  next : path.parts[depth]? = some name
  above : tree.locate .look current (path.upTo depth) = .ok (.directory location)
  searchable : tree.denial? location .search = none
  fixed : tree.node? (location ++ [name]) = none → tree.denial? location .write ≠ none
  closed : ∀ place, tree.locate .look current (path.upTo (depth + 1)) ≠ .ok (.directory place)

def Admits (tree : FileTree) (current : Location) (path : Path) : Prop :=
  ∀ depth < path.parts.length, ∀ location,
    tree.locate .look current (path.upTo depth) = .ok (.directory location) →
      tree.denial? location .search = none

/-- A directory that a front of a path leads to, under the last name of this front. -/
def IsAlong (tree : FileTree) (current : Location) (path : Path) (depth : Nat) (place : Location) :
    Prop :=
  ∃ front < depth, ∃ above name, path.parts[front]? = some name ∧ place = above ++ [name] ∧
    tree.locate .look current (path.upTo (front + 1)) = .ok (.directory place)

theorem IsAlong.mono {place : Location} (h : tree.IsAlong current path depth place)
    (hwithin : tree.Within grown) (hdeeper : depth ≤ deeper) :
    grown.IsAlong current path deeper place := by
  obtain ⟨front, hfront, above, name, hnext, hplace, hlocate⟩ := h
  exact ⟨front, Nat.lt_of_lt_of_le hfront hdeeper, above, name, hnext, hplace,
    hwithin.locate_eq hlocate nofun⟩

structure Grows (tree grown : FileTree) (current : Location) (path : Path) (depth : Nat) :
    Prop where
  within : tree.Within grown
  nested : grown.Nested
  added : ∀ place node, tree.node? place = none → grown.node? place = some node →
    node = .directory ∧ grown.IsAlong current path depth place

/-- A directory that was made is there. It is empty, and nothing is denied of it. -/
structure Makes (tree grown : FileTree) (current : Location) (path : Path) (depth : Nat)
    (location : Location) : Prop extends Grows tree grown current path depth where
  reached : grown.locate .look current (path.upTo depth) = .ok (.directory location)
  empty : ∀ name, grown.node? (location ++ [name]) = none
  granted : ∀ access, grown.denial? location access = none

/-- In a directory that was made, the next name is missing. -/
theorem Makes.lacks (h : tree.Makes grown current path depth location)
    (hnext : path.parts[depth]? = some name) : grown.Lacks current path depth location name :=
  ⟨hnext, h.reached, h.granted .search, h.empty name, h.granted .write⟩

section Along

variable (hwhole : path.render.utf8ByteSize ≤ pathLimit)

include hwhole

theorem not_long_upTo (depth : Nat) : ¬pathLimit < (path.upTo depth).render.utf8ByteSize := by
  have hsize := size_render_upTo path depth
  have hlimit : (1 : Nat) ≤ pathLimit := by decide
  omega

/-- A front of a path that can be followed can be followed as well. -/
theorem locate_upTo (tree : FileTree) (aim : Aim) (current : Location) (depth : Nat) :
    tree.locate aim current (path.upTo depth) =
      tree.walk aim linkLimit (startOf current path) (path.upTo depth).parts := by
  rw [locate, if_neg (not_long_upTo hwhole depth)]
  rfl

/-- Behind a front that leads to no directory, the path leads nowhere. -/
theorem locate_beyond
    (h : ∀ place, tree.locate .look current (path.upTo depth) ≠ .ok (.directory place))
    (hdepth : depth < path.parts.length) (hdeeper : depth < deeper) :
    tree.locate .look current (path.upTo deeper) =
      .error (hindrance (tree.locate .look current (path.upTo depth))) := by
  have hparts : (path.upTo deeper).parts =
      (path.upTo depth).parts ++ (path.parts.take deeper).drop depth := by
    have hsplit := List.take_append_drop depth (path.parts.take deeper)
    rw [List.take_take, Nat.min_eq_left (Nat.le_of_lt hdeeper)] at hsplit
    exact hsplit.symm
  have hrest : (path.parts.take deeper).drop depth ≠ [] := by
    apply List.ne_nil_of_length_pos
    rw [List.length_drop, List.length_take]
    omega
  rw [locate_upTo hwhole] at h
  rw [locate_upTo hwhole, locate_upTo hwhole, hparts]
  exact walk_append_of_ne_directory h hrest

theorem ne_directory_beyond
    (h : ∀ place, tree.locate .look current (path.upTo depth) ≠ .ok (.directory place))
    (hdepth : depth < path.parts.length) (hdeeper : depth ≤ deeper) (place : Location) :
    tree.locate .look current (path.upTo deeper) ≠ .ok (.directory place) := by
  obtain hlt | rfl := Nat.lt_or_eq_of_le hdeeper
  · rw [locate_beyond hwhole h hdepth hlt]
    nofun
  · exact h place

theorem makeDirectory_of_ne_directory (hnext : path.parts[depth]? = some name)
    (h : ∀ place, tree.locate .look current (path.upTo depth) ≠ .ok (.directory place)) :
    tree.makeDirectory current (path.upTo (depth + 1)) =
      .error (hindrance (tree.locate .look current (path.upTo depth))) := by
  rw [makeDirectory, if_neg (not_long_upTo hwhole _), parent_upTo_succ hnext]
  cases hlocate : tree.locate .look current (path.upTo depth) with
  | error fault => rfl
  | ok place =>
      cases place with
      | directory location => exact absurd hlocate (h location)
      | file location content => rfl
      | free location => rfl

/-- A way along a path comes to a directory, to a name that is missing, or to one that bars it. -/
theorem way_cases (hadmits : tree.Admits current path) (hdepth : depth ≤ path.parts.length) :
    (∃ place, tree.locate .look current (path.upTo depth) = .ok (.directory place)) ∨
      (∃ higher < depth, ∃ place name, tree.Lacks current path higher place name) ∨
      ∃ higher < depth, ∃ place name, tree.Bars current path higher place name := by
  induction depth with
  | zero =>
      refine .inl ⟨startOf current path, ?_⟩
      rw [locate_upTo hwhole]
      exact walk.eq_1 ..
  | succ depth ih =>
      have hnext := List.getElem?_eq_getElem hdepth
      obtain ⟨place, habove⟩ | ⟨higher, hhigher, hlacks⟩ | ⟨higher, hhigher, hbars⟩ :=
        ih (Nat.le_of_succ_le hdepth)
      · by_cases hopen :
            ∃ place, tree.locate .look current (path.upTo (depth + 1)) = .ok (.directory place)
        · exact .inl hopen
        have hsearch := hadmits depth hdepth place habove
        by_cases hmissing : tree.node? (place ++ [path.parts[depth]]) = none ∧
            tree.denial? place .write = none
        · exact .inr (.inl ⟨depth, Nat.lt_succ_self depth, place, _, hnext, habove, hsearch,
            hmissing.1, hmissing.2⟩)
        · exact .inr (.inr ⟨depth, Nat.lt_succ_self depth, place, _, hnext, habove, hsearch,
            not_and.mp hmissing, not_exists.mp hopen⟩)
      · exact .inr (.inl ⟨higher, Nat.lt_succ_of_lt hhigher, hlacks⟩)
      · exact .inr (.inr ⟨higher, Nat.lt_succ_of_lt hhigher, hbars⟩)

section Plain

variable (hplain : path.IsPlain)

include hplain

/-- From the directory that a front of a path leads to, the way goes on with the next name. -/
theorem locate_next (hnext : path.parts[depth]? = some name)
    (habove : tree.locate .look current (path.upTo depth) = .ok (.directory location)) (aim : Aim) :
    IsLookedUp aim name [] ∧
      ∃ left ≤ linkLimit, tree.locate aim current (path.upTo (depth + 1)) =
        tree.walk aim left location [name] := by
  have hname := hplain name (List.mem_of_getElem? hnext)
  refine ⟨hname.isLookedUp_last aim, ?_⟩
  rw [locate_upTo hwhole] at habove
  rw [locate_upTo hwhole, parts_upTo_succ hnext]
  exact walk_append habove (by simp [hname.named])

/-- A path that leads to something, or visibly to nothing, is admitted all the way along. -/
theorem admits_of_isThere {there : Bool} (hthere : tree.isThere current path = .ok there) :
    tree.Admits current path := by
  intro depth hdepth location habove
  cases hsearch : tree.denial? location .search with
  | none => rfl
  | some denial =>
      have hnext := List.getElem?_eq_getElem hdepth
      have hname := hplain _ (List.mem_of_getElem? hnext)
      obtain ⟨-, left, -, hlocate⟩ := locate_next hwhole hplain hnext habove .look
      rw [(Leads.shut hname.named hsearch).walk_eq] at hlocate
      have hpath : tree.locate .look current path = .error (.denied denial) := by
        obtain hlt | hlast := Nat.lt_or_eq_of_le hdepth
        · have hbeyond := locate_beyond hwhole (fun place => by rw [hlocate]; nofun) hlt hlt
          rwa [upTo_length, hlocate] at hbeyond
        · rwa [← Nat.succ_eq_add_one, hlast, upTo_length] at hlocate
      rw [isThere, leadsTo, hpath] at hthere
      cases hthere

theorem Lacks.locate_eq (h : tree.Lacks current path depth location name) (aim : Aim) :
    tree.locate aim current (path.upTo (depth + 1)) = .ok (.free (location ++ [name])) := by
  obtain ⟨hname, left, -, hlocate⟩ := locate_next hwhole hplain h.next h.above aim
  rw [hlocate, hname.walk_free h.searchable h.free]
  rfl

theorem makeDirectory_of_directory (hnext : path.parts[depth]? = some name)
    (habove : tree.locate .look current (path.upTo depth) = .ok (.directory location))
    (hsearch : tree.denial? location .search = none) :
    tree.makeDirectory current (path.upTo (depth + 1)) =
      match tree.node? (location ++ [name]) with
      | none =>
        tree.unlessDenied location .write (.ok (tree.put (location ++ [name]) .directory))
      | some _ => .error .exists := by
  have hname := hplain name (List.mem_of_getElem? hnext)
  have hdots : ¬(name = "." ∨ name = "..") := not_or.mpr ⟨hname.here, hname.below⟩
  rw [makeDirectory, if_neg (not_long_upTo hwhole _), parent_upTo_succ hnext, habove,
    name_upTo_succ hnext]
  simp only [if_neg hname.named, unlessDenied, hsearch, if_neg hdots, if_neg hname.short] <;> rfl

/-- Where a name is missing, no front of the path that goes beyond it leads anywhere. -/
theorem Lacks.beyond (h : tree.Lacks current path depth location name) (hdeeper : depth < deeper)
    (hinside : deeper ≤ path.parts.length) :
    (∀ place, tree.locate .look current (path.upTo deeper) ≠ .ok (.directory place)) ∧
      hindrance (tree.locate .look current (path.upTo deeper)) = .notFound := by
  have hfree := h.locate_eq hwhole hplain .look
  have hshut (place : Location) :
      tree.locate .look current (path.upTo (depth + 1)) ≠ .ok (.directory place) := by
    rw [hfree]
    nofun
  obtain hlt | rfl := Nat.lt_or_eq_of_le (Nat.succ_le_of_lt hdeeper)
  · refine ⟨ne_directory_beyond hwhole hshut (Nat.lt_of_lt_of_le hlt hinside) hdeeper, ?_⟩
    rw [locate_beyond hwhole hshut (Nat.lt_of_lt_of_le hlt hinside) hlt, hfree]
    rfl
  · refine ⟨hshut, ?_⟩
    rw [Nat.succ_eq_add_one, hfree]
    rfl

/-- A way that comes to a missing name is not barred, neither before this name nor behind it. -/
theorem Lacks.not_bars {other : Nat} {place : Location} {taken : String}
    (h : tree.Lacks current path depth location name) :
    ¬tree.Bars current path other place taken := by
  intro hbars
  have hdepth := (List.getElem?_eq_some_iff.mp h.next).1
  have hother := (List.getElem?_eq_some_iff.mp hbars.next).1
  obtain hlt | rfl | hlt := Nat.lt_trichotomy depth other
  · exact (h.beyond hwhole hplain hlt (Nat.le_of_lt hother)).1 _ hbars.above
  · obtain rfl : name = taken := Option.some.inj (h.next.symm.trans hbars.next)
    have hsame := h.above.symm.trans hbars.above
    cases hsame
    exact hbars.fixed h.free h.writable
  · exact ne_directory_beyond hwhole hbars.closed (Nat.lt_of_le_of_lt hlt hdepth) hlt _ h.above

/-- A path on which a name is missing leads nowhere. -/
theorem Lacks.isThere_eq (h : tree.Lacks current path depth location name) :
    tree.isThere current path = .ok false := by
  have hinside := (List.getElem?_eq_some_iff.mp h.next).1
  obtain ⟨hshut, hmissing⟩ := h.beyond hwhole hplain hinside (Nat.le_refl _)
  rw [upTo_length] at hshut hmissing
  unfold isThere leadsTo
  cases hlocate : tree.locate .look current path with
  | error fault =>
      rw [hlocate] at hmissing
      obtain rfl : fault = .notFound := hmissing
      rfl
  | ok found =>
      rw [hlocate] at hmissing
      cases found with
      | free place => rfl
      | file place content => cases hmissing
      | directory place => exact absurd hlocate (hshut place)

/-- A directory that is there is not made, nor is one above it. -/
theorem makeDirectories_of_directory (hdepth : depth ≤ path.parts.length)
    (h : tree.locate .look current (path.upTo depth) = .ok (.directory location)) :
    tree.makeDirectories current path depth = .ok tree := by
  cases depth with
  | zero => rfl
  | succ depth =>
      have hnext := List.getElem?_eq_getElem hdepth
      obtain ⟨place, habove⟩ : ∃ place,
          tree.locate .look current (path.upTo depth) = .ok (.directory place) := by
        apply Classical.byContradiction
        intro hnone
        exact ne_directory_beyond hwhole (not_exists.mp hnone) hdepth (Nat.le_succ depth) _ h
      obtain ⟨hname, left, -, hlocate⟩ := locate_next hwhole hplain hnext habove .look
      rw [h] at hlocate
      have hsearch : tree.denial? place .search = none := by
        cases hshut : tree.denial? place .search with
        | none => rfl
        | some denial =>
            rw [(Leads.shut hname.named hshut).walk_eq] at hlocate
            cases hlocate
      have hmake := makeDirectory_of_directory hwhole hplain hnext habove hsearch
      cases hnode : tree.node? (place ++ [path.parts[depth]]) with
      | none =>
          rw [hname.walk_free hsearch hnode] at hlocate
          cases hlocate
      | some node =>
          rw [hnode] at hmake
          simp only [makeDirectories, hmake]
          exact settle_of_directory h

/-- One more directory is made in one that is there. -/
theorem Grows.makeDirectory (h : Grows tree grown current path depth)
    (hstart : grown.node? (startOf current path) = some .directory)
    (hlacks : grown.Lacks current path depth location name) :
    ∃ made, grown.makeDirectory current (path.upTo (depth + 1)) = .ok made ∧
      Makes tree made current path (depth + 1) (location ++ [name]) := by
  obtain ⟨hnext, hreached, hsearch, hfree, hwritable⟩ := hlacks
  have hmake := makeDirectory_of_directory hwhole hplain hnext hreached hsearch
  rw [hfree] at hmake
  refine ⟨_, hmake.trans (unlessDenied_eq_ok_iff.mpr ⟨hwritable, rfl⟩), ?_⟩
  have hwithin := within_put hfree .directory
  have hput := node?_put grown (ne_root_of_free hfree) .directory
  have hnested : (grown.put (location ++ [name]) .directory).Nested := by
    apply h.nested.put _ hfree
    rw [locate_upTo hwhole] at hreached
    exact h.nested.node?_of_walk hstart hreached
  have hmade : (grown.put (location ++ [name]) .directory).locate .look current
      (path.upTo (depth + 1)) = .ok (.directory (location ++ [name])) := by
    have habove := hwithin.locate_eq hreached nofun
    obtain ⟨hname, left, -, hlocate⟩ := locate_next hwhole hplain hnext habove .look
    rw [hlocate, hname.walk_directory (hwithin.open hsearch) ((hput _).trans (if_pos rfl)), walk]
  refine ⟨⟨h.within.trans hwithin, hnested, ?_⟩, hmade, ?_, ?_⟩
  · intro place node hold hnew
    rw [hput] at hnew
    split at hnew
    next heq =>
      subst heq
      cases hnew
      exact ⟨rfl, depth, Nat.lt_succ_self depth, location, name, hnext, rfl, hmade⟩
    next =>
      obtain ⟨rfl, halong⟩ := h.added place node hold hnew
      exact ⟨rfl, halong.mono hwithin (Nat.le_succ depth)⟩
  · intro other
    rw [hput, if_neg (by simp)]
    exact h.nested.free_below hfree other
  · intro access
    rw [denial?_put hfree, denial?, hfree]
    rfl

/-- Where a name is missing, all directories from there on are made. -/
theorem makeDirectories_of_lacks (hnested : tree.Nested)
    (hstart : tree.node? (startOf current path) = some .directory)
    (h : tree.Lacks current path depth location name) (hdeeper : depth < deeper)
    (hinside : deeper ≤ path.parts.length) :
    ∃ grown place, tree.makeDirectories current path deeper = .ok grown ∧
      Makes tree grown current path deeper place := by
  induction deeper with
  | zero => exact absurd hdeeper (Nat.not_lt_zero depth)
  | succ deeper ih =>
      obtain hlt | rfl := Nat.lt_or_eq_of_le (Nat.le_of_lt_succ hdeeper)
      · obtain ⟨grown, place, hgrown, hmakes⟩ := ih hlt (Nat.le_of_succ_le hinside)
        obtain ⟨hshut, hmissing⟩ := h.beyond hwhole hplain hlt (Nat.le_of_succ_le hinside)
        have hnext := List.getElem?_eq_getElem hinside
        have hfirst := makeDirectory_of_ne_directory hwhole hnext hshut
        rw [hmissing] at hfirst
        obtain ⟨made, hmade, hresult⟩ := hmakes.toGrows.makeDirectory hwhole hplain
          (hmakes.within.node _ _ hstart) (hmakes.lacks hnext)
        refine ⟨made, _, ?_, hresult⟩
        simp only [makeDirectories, hfirst, hgrown, hmade]
      · have hgrows : Grows tree tree current path depth :=
          ⟨.refl tree, hnested, fun place node hold hnew => by
            rw [hold] at hnew
            cases hnew⟩
        obtain ⟨made, hmade, hresult⟩ :=
          hgrows.makeDirectory hwhole hplain hstart h
        refine ⟨made, _, ?_, hresult⟩
        simp only [makeDirectories, hmade]

/-- A directory that bars the way cannot be made, and not because anything above it is missing. -/
theorem Bars.makeDirectory (h : tree.Bars current path depth location name) :
    ∃ fault, fault ≠ .notFound ∧
      tree.makeDirectory current (path.upTo (depth + 1)) = .error fault := by
  have hfirst := makeDirectory_of_directory hwhole hplain h.next h.above h.searchable
  cases hnode : tree.node? (location ++ [name]) with
  | some node =>
      rw [hnode] at hfirst
      exact ⟨.exists, nofun, hfirst⟩
  | none =>
      obtain ⟨denial, hdenial⟩ := Option.ne_none_iff_exists'.mp (h.fixed hnode)
      rw [hnode] at hfirst
      simp only [unlessDenied, hdenial] at hfirst
      exact ⟨.denied denial, nofun, hfirst⟩

/-- Where the way is barred, nothing is made. -/
theorem makeDirectories_of_bars (h : tree.Bars current path depth location name)
    (hdeeper : depth < deeper) (hinside : deeper ≤ path.parts.length) :
    ∃ stop, tree.makeDirectories current path deeper = .error stop ∧ stop.files = tree := by
  induction deeper with
  | zero => exact absurd hdeeper (Nat.not_lt_zero depth)
  | succ deeper ih =>
      obtain hlt | rfl := Nat.lt_or_eq_of_le (Nat.le_of_lt_succ hdeeper)
      · have hshut (front : Nat) (hfront : depth < front) :=
          ne_directory_beyond hwhole h.closed (Nat.lt_of_le_of_lt hlt hinside) hfront
        have hfirst := makeDirectory_of_ne_directory hwhole (List.getElem?_eq_getElem hinside)
          (hshut deeper hlt)
        by_cases hmissing : hindrance (tree.locate .look current (path.upTo deeper)) = .notFound
        · obtain ⟨stop, hstop, hfiles⟩ := ih hlt (Nat.le_of_succ_le hinside)
          rw [hmissing] at hfirst
          refine ⟨stop, ?_, hfiles⟩
          simp only [makeDirectories, hfirst, hstop]
        · obtain ⟨stop, hstop, hfiles⟩ := settle_of_ne_directory (hshut (deeper + 1) hdeeper)
            (hindrance (tree.locate .look current (path.upTo deeper)))
          refine ⟨stop, ?_, hfiles⟩
          simp only [makeDirectories, hfirst]
          exact hstop
      · obtain ⟨fault, hfault, hfirst⟩ := h.makeDirectory hwhole hplain
        obtain ⟨stop, hstop, hfiles⟩ := settle_of_ne_directory h.closed fault
        refine ⟨stop, ?_, hfiles⟩
        rw [makeDirectories, hfirst]
        split
        next hmade => cases hmade
        next heq => exact absurd (Except.error.inj heq) hfault
        next heq =>
          cases heq
          exact hstop

end Plain

end Along

end FileTree

end Sexpr
