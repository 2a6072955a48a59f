import Sexpr.Proofs.Files.Walk

/-!
File trees that grow. A node that is put at a free place leaves all that stands elsewhere as it is,
with all that is denied there, and what a path led to before, it leads to afterwards. A path that
led nowhere may come to lead somewhere; where the new node is a file, these are just the paths that
led to its place.
-/

namespace Sexpr

namespace FileTree

variable {tree grown : FileTree} {current location place : Location} {path : Path} {aim : Aim}
  {links : Nat} {name : String} {names rest : List String} {content : List UInt8}

section Nodes

theorem lookup_map_replace (nodes : List (Location × Node)) (location other : Location)
    (node : Node) :
    (nodes.map fun (there, old) => (there, if there = location then node else old)).lookup other =
      (nodes.lookup other).map fun old => if other = location then node else old := by
  induction nodes with
  | nil => rfl
  | cons entry nodes ih =>
      obtain ⟨there, old⟩ := entry
      rw [List.map_cons, List.lookup_cons, List.lookup_cons]
      by_cases hthere : other = there
      · subst hthere
        simp
      · have hne : (other == there) = false := beq_false_of_ne hthere
        simp only [hne]
        exact ih

theorem lookup_filter_place (denials : List ((Location × Access) × Denial))
    (location other : Location) (access : Access) :
    (denials.filter (·.1.1 ≠ location)).lookup (other, access) =
      if other = location then none else denials.lookup (other, access) := by
  induction denials with
  | nil => simp
  | cons entry denials ih =>
      obtain ⟨⟨there, use⟩, denial⟩ := entry
      rw [List.filter_cons, List.lookup_cons]
      by_cases hthere : there = location
      · subst hthere
        rw [if_neg (by simp), ih]
        by_cases hother : other = there
        · rw [if_pos hother, if_pos hother]
        · have hne : ((other, access) == (there, use)) = false := by simp [hother]
          simp only [hne]
      · rw [if_pos (by simpa using hthere), List.lookup_cons, ih]
        by_cases hsame : (other, access) = (there, use)
        · cases hsame
          simp [hthere]
        · have hne : ((other, access) == (there, use)) = false := beq_false_of_ne hsame
          simp only [hne]

/-- A node that was put at a place stands there, and no other place has changed. -/
theorem node?_put (tree : FileTree) (hroot : location ≠ []) (node : Node) (other : Location) :
    (tree.put location node).node? other =
      if other = location then some node else tree.node? other := by
  unfold put
  by_cases hother : other = []
  · subst hother
    rw [if_neg (Ne.symm hroot)]
    unfold node?
    rw [if_pos rfl, if_pos rfl]
  have hlookup (tree : FileTree) : tree.node? other = tree.nodes.lookup other := if_neg hother
  rw [hlookup, hlookup, node?, if_neg hroot]
  by_cases htaken : (tree.nodes.lookup location).isSome = true
  · rw [if_pos htaken, lookup_map_replace]
    by_cases heq : other = location
    · subst heq
      obtain ⟨old, hold⟩ := Option.isSome_iff_exists.mp htaken
      simp [hold]
    · simp [heq]
  · rw [if_neg htaken, List.lookup_append]
    by_cases heq : other = location
    · subst heq
      rw [Option.not_isSome_iff_eq_none.mp htaken]
      simp
    · have hne : (other == location) = false := beq_false_of_ne heq
      simp [List.lookup_cons, hne, heq]

/-- The root is a directory, so no place that is free is the root. -/
theorem ne_root_of_free (h : tree.node? location = none) : location ≠ [] := by
  rintro rfl
  cases h

/-- What is put at a free place changes nothing of what is denied: of the new node nothing is. -/
theorem denial?_put (hfree : tree.node? location = none) (node : Node) (other : Location)
    (access : Access) :
    (tree.put location node).denial? other access = tree.denial? other access := by
  have hnew : (tree.put location node).denials = tree.denials.filter (·.1.1 ≠ location) := by
    rw [put, hfree]
    rfl
  rw [denial?, denial?, node?_put tree (ne_root_of_free hfree), hnew, lookup_filter_place]
  by_cases heq : other = location
  · rw [if_pos heq, if_pos heq, heq, hfree]
    rfl
  · rw [if_neg heq, if_neg heq]

end Nodes

section Within

/-- Whatever stands in a tree stands in another one as well, at the same place, and what is denied
in the one is denied in the other. -/
structure Within (tree grown : FileTree) : Prop where
  node : ∀ location node, tree.node? location = some node → grown.node? location = some node
  denial : ∀ location access, grown.denial? location access = tree.denial? location access

theorem Within.refl (tree : FileTree) : tree.Within tree :=
  ⟨fun _ _ h => h, fun _ _ => rfl⟩

theorem Within.trans {between : FileTree} (hfirst : tree.Within between)
    (hsecond : between.Within grown) : tree.Within grown where
  node location node h := hsecond.node location node (hfirst.node location node h)
  denial location access := (hsecond.denial location access).trans (hfirst.denial location access)

theorem within_put (hfree : tree.node? location = none) (node : Node) :
    tree.Within (tree.put location node) where
  node other old hold := by
    have hne : other ≠ location := by
      rintro rfl
      rw [hfree] at hold
      cases hold
    rw [node?_put tree (ne_root_of_free hfree), if_neg hne, hold]
  denial := denial?_put hfree node

theorem Within.open (h : tree.Within grown) (hopen : tree.denial? location .search = none) :
    grown.denial? location .search = none :=
  (h.denial location .search).trans hopen

/-- Where names lead in a tree, they lead in one that has grown. -/
theorem Within.walk_eq (h : tree.Within grown) {found : Place}
    (hwalk : tree.walk aim links location names = .ok found)
    (hthere : ∀ place, found ≠ .free place) :
    grown.walk aim links location names = .ok found := by
  have hleads := leads_iff.mpr hwalk
  apply Leads.walk_eq
  generalize hfound : Except.ok found = result at hleads ⊢
  clear hwalk
  induction hleads with
  | arrived => exact .arrived
  | skipped _ ih => exact .skipped (ih hfound)
  | here hopen _ ih => exact .here (h.open hopen) (ih hfound)
  | above hopen _ ih => exact .above (h.open hopen) (ih hfound)
  | free =>
      cases hfound
      exact absurd rfl (hthere _)
  | directory hopen hname hnode _ ih =>
      exact .directory (h.open hopen) hname (h.node _ _ hnode) (ih hfound)
  | file hopen hname hnode => exact .file (h.open hopen) hname (h.node _ _ hnode)
  | link hopen hname hnode _ ih => exact .link (h.open hopen) hname (h.node _ _ hnode) (ih hfound)
  | _ => cases hfound

theorem Within.locate_eq (h : tree.Within grown) {found : Place}
    (hlocate : tree.locate aim current path = .ok found) (hthere : ∀ place, found ≠ .free place) :
    grown.locate aim current path = .ok found := by
  unfold locate at hlocate ⊢
  split at hlocate
  case isTrue => cases hlocate
  case isFalse hlength =>
    rw [if_neg hlength]
    exact h.walk_eq hlocate hthere

theorem Within.reached (h : tree.Within grown) (hreached : tree.Reached place) :
    grown.Reached place := by
  induction hreached with
  | root => exact .root
  | entry hplace hname hopen hnode ih => exact .entry ih hname (h.open hopen) (h.node _ _ hnode)

end Within

section Filled

/-- What a walk comes to once a file was put at a free place: the same as before, unless it came to
this place before. -/
inductive Filled (place : Location) (content : List UInt8) :
    (before after : Except OsFault Place) → Prop
  | same {result : Except OsFault Place} (h : result ≠ .ok (.free place)) :
      Filled place content result result
  | file : Filled place content (.ok (.free place)) (.ok (.file place content))
  | behind : Filled place content (.error .notFound) (.error .notDirectory)

theorem Leads.filled {result : Except OsFault Place}
    (h : tree.Leads aim links location names result) (hfree : tree.node? place = none)
    (content : List UInt8) :
    ∃ after, Filled place content result after ∧
      (tree.put place (.file content)).Leads aim links location names after := by
  have hput := node?_put tree (ne_root_of_free hfree) (.file content)
  have hwithin := within_put hfree (.file content)
  induction h with
  | arrived => exact ⟨_, .same (by simp), .arrived⟩
  | skipped _ ih =>
      obtain ⟨after, hfilled, hafter⟩ := ih
      exact ⟨after, hfilled, .skipped hafter⟩
  | shut hnamed hshut =>
      exact ⟨_, .same (by simp), .shut hnamed ((hwithin.denial _ _).trans hshut)⟩
  | here hopen _ ih =>
      obtain ⟨after, hfilled, hafter⟩ := ih
      exact ⟨after, hfilled, .here (hwithin.open hopen) hafter⟩
  | above hopen _ ih =>
      obtain ⟨after, hfilled, hafter⟩ := ih
      exact ⟨after, hfilled, .above (hwithin.open hopen) hafter⟩
  | slashed hopen hnamed hhere hbelow hslash =>
      exact ⟨_, .same (by simp), .slashed (hwithin.open hopen) hnamed hhere hbelow hslash⟩
  | long hopen hnamed hhere hbelow hadmitted hlong =>
      exact ⟨_, .same (by simp),
        .long (hwithin.open hopen) hnamed hhere hbelow hadmitted hlong⟩
  | @free _ location name hopen hname hnode =>
      by_cases hplace : location ++ [name] = place
      · subst hplace
        exact ⟨_, .file, .file (hwithin.open hopen) hname ((hput _).trans (if_pos rfl))⟩
      · exact ⟨_, .same (by simp [hplace]),
          .free (hwithin.open hopen) hname ((hput _).trans ((if_neg hplace).trans hnode))⟩
  | @missing _ location name _ hopen hname hmore hnode =>
      by_cases hplace : location ++ [name] = place
      · subst hplace
        exact ⟨_, .behind,
          .blocked (hwithin.open hopen) hname hmore ((hput _).trans (if_pos rfl))⟩
      · exact ⟨_, .same (by simp), .missing (hwithin.open hopen) hname hmore
          ((hput _).trans ((if_neg hplace).trans hnode))⟩
  | directory hopen hname hnode _ ih =>
      obtain ⟨after, hfilled, hafter⟩ := ih
      exact ⟨after, hfilled,
        .directory (hwithin.open hopen) hname (hwithin.node _ _ hnode) hafter⟩
  | file hopen hname hnode =>
      exact ⟨_, .same (by simp), .file (hwithin.open hopen) hname (hwithin.node _ _ hnode)⟩
  | blocked hopen hname hmore hnode =>
      exact ⟨_, .same (by simp),
        .blocked (hwithin.open hopen) hname hmore (hwithin.node _ _ hnode)⟩
  | exhausted hopen hname hnode =>
      exact ⟨_, .same (by simp), .exhausted (hwithin.open hopen) hname (hwithin.node _ _ hnode)⟩
  | link hopen hname hnode _ ih =>
      obtain ⟨after, hfilled, hafter⟩ := ih
      exact ⟨after, hfilled, .link (hwithin.open hopen) hname (hwithin.node _ _ hnode) hafter⟩

theorem filled_locate (hfree : tree.node? place = none) (content : List UInt8) (aim : Aim)
    (current : Location) (path : Path) :
    Filled place content (tree.locate aim current path)
      ((tree.put place (.file content)).locate aim current path) := by
  unfold locate
  split
  · exact .same (by simp)
  · obtain ⟨after, hfilled, hafter⟩ := (leads_walk ..).filled hfree content
    rw [hafter.walk_eq]
    exact hfilled

end Filled

section Written

theorem isThere_iff :
    tree.isThere current path = .ok true ↔
      ∃ found, tree.locate .look current path = .ok found ∧ ∀ place, found ≠ .free place := by
  unfold isThere leadsTo
  cases tree.locate .look current path with
  | error fault => by_cases habsent : fault.isAbsence = true <;> simp [habsent]
  | ok found => cases found <;> simp

/-- A path that can be looked at is not too long. -/
theorem size_of_isThere {there : Bool} (h : tree.isThere current path = .ok there) :
    path.render.utf8ByteSize ≤ pathLimit := by
  apply Nat.not_lt.mp
  intro hlong
  rw [isThere, leadsTo, locate, if_pos hlong] at h
  cases h

/-- A path that came to something comes to something in a tree that has grown. -/
theorem Within.isThere_eq (h : tree.Within grown) (hthere : tree.isThere current path = .ok true) :
    grown.isThere current path = .ok true := by
  obtain ⟨found, hlocate, hplace⟩ := isThere_iff.mp hthere
  exact isThere_iff.mpr ⟨found, h.locate_eq hlocate hplace, hplace⟩

theorem unlessDenied_eq_ok_iff {α : Type} {access : Access} {result : Except OsFault α}
    {value : α} :
    tree.unlessDenied place access result = .ok value ↔
      tree.denial? place access = none ∧ result = .ok value := by
  unfold unlessDenied
  cases tree.denial? place access <;> simp

theorem read_eq_ok_iff :
    tree.read current path = .ok content ↔
      ∃ place, tree.locate .look current path = .ok (.file place content) ∧
        tree.denial? place .read = none := by
  unfold read
  cases tree.locate .look current path with
  | error fault => simp
  | ok found => cases found <;> simp [unlessDenied_eq_ok_iff, and_assoc, and_comm]

/-- A file reads the same in a tree that has grown. -/
theorem Within.read_eq (h : tree.Within grown) (hread : tree.read current path = .ok content) :
    grown.read current path = .ok content := by
  obtain ⟨place, hlocate, hreadable⟩ := read_eq_ok_iff.mp hread
  exact read_eq_ok_iff.mpr
    ⟨place, h.locate_eq hlocate nofun, (h.denial place .read).trans hreadable⟩

theorem isFile_of_read (hread : tree.read current path = .ok content) :
    tree.isFile current path = .ok true := by
  obtain ⟨place, hlocate, -⟩ := read_eq_ok_iff.mp hread
  rw [isFile, leadsTo, hlocate]

theorem isThere_of_read (hread : tree.read current path = .ok content) :
    tree.isThere current path = .ok true := by
  obtain ⟨place, hlocate, -⟩ := read_eq_ok_iff.mp hread
  rw [isThere, leadsTo, hlocate]

/-- Unless anything is there, the look for a file comes to the same as the look for anything. -/
theorem isFile_eq_isThere (h : tree.isThere current path ≠ .ok true) :
    tree.isFile current path = tree.isThere current path := by
  unfold isThere leadsTo at h ⊢
  unfold isFile leadsTo
  cases hlocate : tree.locate .look current path with
  | error fault => rfl
  | ok found =>
      rw [hlocate] at h
      cases found with
      | free place => rfl
      | file place content => exact absurd rfl h
      | directory place => exact absurd rfl h

/-- Where it is as before whether anything is there, it is as before whether a file is there. -/
theorem Within.isFile_eq (h : tree.Within grown)
    (hsame : grown.isThere current path = tree.isThere current path) :
    grown.isFile current path = tree.isFile current path := by
  by_cases hthere : tree.isThere current path = .ok true
  · obtain ⟨found, hlocate, hplace⟩ := isThere_iff.mp hthere
    unfold isFile leadsTo
    rw [h.locate_eq hlocate hplace, hlocate]
  · rw [isFile_eq_isThere hthere, isFile_eq_isThere (hsame ▸ hthere), hsame]

/-- A path that led nowhere can be written to only where it led to a free place, which is then a
file. -/
theorem exists_free_of_write {written : FileTree} (habsent : tree.isThere current path = .ok false)
    (hwrite : tree.write current path content = .ok written) :
    ∃ place, tree.locate .look current path = .ok (.free place) ∧ tree.node? place = none ∧
      written = tree.put place (.file content) := by
  have hfound {found : Place} (h : tree.locate .write current path = .ok found) :
      tree.locate .look current path = .ok found := by
    unfold locate at h ⊢
    split at h
    · cases h
    next hlength =>
      rw [if_neg hlength]
      exact walk_look_of_ok h
  unfold write at hwrite
  split at hwrite
  next location old hlocate =>
    have hthere := isThere_iff.mpr ⟨_, hfound hlocate, nofun⟩
    rw [habsent] at hthere
    cases hthere
  next place hlocate =>
    obtain ⟨-, hwritten⟩ := unlessDenied_eq_ok_iff.mp hwrite
    cases hwritten
    refine ⟨place, hfound hlocate, ?_, rfl⟩
    unfold locate at hlocate
    split at hlocate
    · cases hlocate
    · exact node?_of_walk_free hlocate
  · cases hwrite
  · cases hwrite

theorem within_write {written : FileTree} (habsent : tree.isThere current path = .ok false)
    (hwrite : tree.write current path content = .ok written) : tree.Within written := by
  obtain ⟨place, -, hfree, rfl⟩ := exists_free_of_write habsent hwrite
  exact within_put hfree _

/-- Nothing is denied at a free place, nor of what is put there. -/
theorem readable_put (hfree : tree.node? place = none) (content : List UInt8) :
    (tree.put place (.file content)).denial? place .read = none := by
  rw [denial?_put hfree, denial?, hfree]
  rfl

/-- A path that led to a free place leads to the file that was put there. -/
theorem read_put (hlocate : tree.locate .look current path = .ok (.free place))
    (hfree : tree.node? place = none) (content : List UInt8) :
    (tree.put place (.file content)).read current path = .ok content := by
  have hfilled := filled_locate hfree content .look current path
  rw [hlocate] at hfilled
  apply read_eq_ok_iff.mpr
  refine ⟨place, ?_, readable_put hfree content⟩
  generalize (tree.put place (.file content)).locate .look current path = after at hfilled ⊢
  cases hfilled with
  | same h => exact absurd rfl h
  | file => rfl

/-- Beside a file that was put at a free place, a path that led nowhere leads nowhere or to it. -/
theorem isThere_or_read_put (habsent : tree.isThere current path = .ok false)
    (hfree : tree.node? place = none) (content : List UInt8) :
    (tree.put place (.file content)).isThere current path = .ok false ∨
      (tree.put place (.file content)).read current path = .ok content := by
  have hfilled := filled_locate hfree content .look current path
  rw [read_eq_ok_iff]
  unfold isThere leadsTo at habsent ⊢
  generalize tree.locate .look current path = before at hfilled habsent
  generalize (tree.put place (.file content)).locate .look current path = after at hfilled ⊢
  cases hfilled with
  | same h => exact .inl habsent
  | file => exact .inr ⟨place, rfl, readable_put hfree content⟩
  | behind => exact .inl rfl

end Written

end FileTree

end Sexpr
