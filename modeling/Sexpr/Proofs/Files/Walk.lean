import Sexpr.Files.Resolution

/-!
Walks along the names of a path, as a relation with one rule for each thing that can happen at a
name. The rules are those of the walk, so a walk has one result and this is it; what holds of all
walks is shown by induction over the rules.
-/

namespace Sexpr

namespace FileTree

variable {tree : FileTree} {current location place : Location} {path : Path} {aim : Aim}
  {links : Nat} {name : String} {names rest : List String} {content : List UInt8}
  {result : Except OsFault Place}

structure IsEntryName (name : String) : Prop where
  named : name ≠ ""
  here : name ≠ "."
  below : name ≠ ".."
  short : ¬nameLimit < name.utf8ByteSize

instance (name : String) : Decidable (IsEntryName name) :=
  decidable_of_iff
    (name ≠ "" ∧ name ≠ "." ∧ name ≠ ".." ∧ ¬nameLimit < name.utf8ByteSize)
    ⟨fun ⟨named, here, below, short⟩ => ⟨named, here, below, short⟩,
      fun h => ⟨h.named, h.here, h.below, h.short⟩⟩

/-- A name that a walk looks up in the directory where it is. -/
structure IsLookedUp (aim : Aim) (name : String) (rest : List String) : Prop
    extends IsEntryName name where
  admitted : ¬(aim = .write ∧ closesWithSlash rest = true)

theorem IsEntryName.isLookedUp (h : IsEntryName name) (rest : List String) :
    IsLookedUp .look name rest :=
  ⟨h, by simp⟩

theorem IsEntryName.isLookedUp_last (h : IsEntryName name) (aim : Aim) : IsLookedUp aim name [] :=
  ⟨h, by simp [closesWithSlash]⟩

/-- Where names lead from a directory, with the links that may be followed. -/
inductive Leads (tree : FileTree) (aim : Aim) :
    (links : Nat) → Location → (names : List String) → Except OsFault Place → Prop
  | arrived {links : Nat} {location : Location} :
      Leads tree aim links location [] (.ok (.directory location))
  | skipped {links : Nat} {location : Location} {rest : List String}
      {result : Except OsFault Place} (hrest : Leads tree aim links location rest result) :
      Leads tree aim links location ("" :: rest) result
  | shut {links : Nat} {location : Location} {name : String} {rest : List String}
      {denial : Denial} (hnamed : name ≠ "")
      (hshut : tree.denial? location .search = some denial) :
      Leads tree aim links location (name :: rest) (.error (.denied denial))
  | here {links : Nat} {location : Location} {rest : List String}
      {result : Except OsFault Place} (hopen : tree.denial? location .search = none)
      (hrest : Leads tree aim links location rest result) :
      Leads tree aim links location ("." :: rest) result
  | above {links : Nat} {location : Location} {rest : List String}
      {result : Except OsFault Place} (hopen : tree.denial? location .search = none)
      (hrest : Leads tree aim links location.dropLast rest result) :
      Leads tree aim links location (".." :: rest) result
  | slashed {links : Nat} {location : Location} {name : String} {rest : List String}
      (hopen : tree.denial? location .search = none) (hnamed : name ≠ "") (hhere : name ≠ ".")
      (hbelow : name ≠ "..") (hslash : aim = .write ∧ closesWithSlash rest = true) :
      Leads tree aim links location (name :: rest) (.error .isDirectory)
  | long {links : Nat} {location : Location} {name : String} {rest : List String}
      (hopen : tree.denial? location .search = none) (hnamed : name ≠ "") (hhere : name ≠ ".")
      (hbelow : name ≠ "..") (hadmitted : ¬(aim = .write ∧ closesWithSlash rest = true))
      (hlong : nameLimit < name.utf8ByteSize) :
      Leads tree aim links location (name :: rest) (.error .nameTooLong)
  | free {links : Nat} {location : Location} {name : String}
      (hopen : tree.denial? location .search = none) (hname : IsLookedUp aim name [])
      (hnode : tree.node? (location ++ [name]) = none) :
      Leads tree aim links location [name] (.ok (.free (location ++ [name])))
  | missing {links : Nat} {location : Location} {name : String} {rest : List String}
      (hopen : tree.denial? location .search = none) (hname : IsLookedUp aim name rest)
      (hmore : rest ≠ []) (hnode : tree.node? (location ++ [name]) = none) :
      Leads tree aim links location (name :: rest) (.error .notFound)
  | directory {links : Nat} {location : Location} {name : String} {rest : List String}
      {result : Except OsFault Place} (hopen : tree.denial? location .search = none)
      (hname : IsLookedUp aim name rest)
      (hnode : tree.node? (location ++ [name]) = some .directory)
      (hrest : Leads tree aim links (location ++ [name]) rest result) :
      Leads tree aim links location (name :: rest) result
  | file {links : Nat} {location : Location} {name : String} {content : List UInt8}
      (hopen : tree.denial? location .search = none) (hname : IsLookedUp aim name [])
      (hnode : tree.node? (location ++ [name]) = some (.file content)) :
      Leads tree aim links location [name] (.ok (.file (location ++ [name]) content))
  | blocked {links : Nat} {location : Location} {name : String} {rest : List String}
      {content : List UInt8} (hopen : tree.denial? location .search = none)
      (hname : IsLookedUp aim name rest) (hmore : rest ≠ [])
      (hnode : tree.node? (location ++ [name]) = some (.file content)) :
      Leads tree aim links location (name :: rest) (.error .notDirectory)
  | exhausted {location : Location} {name : String} {rest : List String} {target : String}
      (hopen : tree.denial? location .search = none) (hname : IsLookedUp aim name rest)
      (hnode : tree.node? (location ++ [name]) = some (.link target)) :
      Leads tree aim 0 location (name :: rest) (.error .tooManyLinks)
  | link {links : Nat} {location : Location} {name : String} {rest : List String}
      {target : String} {result : Except OsFault Place}
      (hopen : tree.denial? location .search = none) (hname : IsLookedUp aim name rest)
      (hnode : tree.node? (location ++ [name]) = some (.link target))
      (hrest : Leads tree aim links (startOf location (.ofText target))
        (Path.names target ++ rest) result) :
      Leads tree aim (links + 1) location (name :: rest) result

/-- A walk goes by the rules. -/
theorem leads_walk (tree : FileTree) (aim : Aim) (links : Nat) (location : Location)
    (names : List String) :
    tree.Leads aim links location names (tree.walk aim links location names) := by
  fun_induction walk tree aim links location names with
  | case1 => exact .arrived
  | case2 _ _ _ ih => exact .skipped ih
  | case3 _ _ _ _ hnamed _ hshut => exact .shut hnamed hshut
  | case4 _ _ _ hopen _ ih => exact .here hopen ih
  | case5 _ _ _ hopen _ _ ih => exact .above hopen ih
  | case6 _ _ _ _ hnamed hopen hhere hbelow hslash =>
      exact .slashed hopen hnamed hhere hbelow hslash
  | case7 _ _ _ _ hnamed hopen hhere hbelow hadmitted hlong =>
      exact .long hopen hnamed hhere hbelow hadmitted hlong
  | case8 _ _ _ _ hnamed hopen hhere hbelow hadmitted hshort hnode hlast =>
      obtain rfl := List.isEmpty_iff.mp hlast
      exact .free hopen ⟨⟨hnamed, hhere, hbelow, hshort⟩, hadmitted⟩ hnode
  | case9 _ _ _ _ hnamed hopen hhere hbelow hadmitted hshort hnode hmore =>
      exact .missing hopen ⟨⟨hnamed, hhere, hbelow, hshort⟩, hadmitted⟩
        (mt List.isEmpty_iff.mpr hmore) hnode
  | case10 _ _ _ _ hnamed hopen hhere hbelow hadmitted hshort hnode ih =>
      exact .directory hopen ⟨⟨hnamed, hhere, hbelow, hshort⟩, hadmitted⟩ hnode ih
  | case11 _ _ _ _ hnamed hopen hhere hbelow hadmitted hshort _ hnode hlast =>
      obtain rfl := List.isEmpty_iff.mp hlast
      exact .file hopen ⟨⟨hnamed, hhere, hbelow, hshort⟩, hadmitted⟩ hnode
  | case12 _ _ _ _ hnamed hopen hhere hbelow hadmitted hshort _ hnode hmore =>
      exact .blocked hopen ⟨⟨hnamed, hhere, hbelow, hshort⟩, hadmitted⟩
        (mt List.isEmpty_iff.mpr hmore) hnode
  | case13 _ _ _ hnamed hopen hhere hbelow hadmitted hshort _ hnode =>
      exact .exhausted hopen ⟨⟨hnamed, hhere, hbelow, hshort⟩, hadmitted⟩ hnode
  | case14 _ _ _ hnamed hopen hhere hbelow hadmitted hshort _ hnode _ ih =>
      exact .link hopen ⟨⟨hnamed, hhere, hbelow, hshort⟩, hadmitted⟩ hnode ih

section Steps

variable (hopen : tree.denial? location .search = none) (h : IsLookedUp aim name rest)

include hopen h

/-- A name that is looked up leads where the node at its place says. -/
theorem IsLookedUp.walk_eq :
    tree.walk aim links location (name :: rest) =
      match tree.node? (location ++ [name]) with
      | none => if rest.isEmpty then .ok (.free (location ++ [name])) else .error .notFound
      | some .directory => tree.walk aim links (location ++ [name]) rest
      | some (.file content) =>
        if rest.isEmpty then .ok (.file (location ++ [name]) content) else .error .notDirectory
      | some (.link target) =>
        match links with
        | 0 => .error .tooManyLinks
        | links + 1 =>
          tree.walk aim links (startOf location (.ofText target)) (Path.names target ++ rest) := by
  rw [walk, if_neg h.named, hopen]
  simp only [if_neg h.here, if_neg h.below, if_neg h.admitted, if_neg h.short] <;> rfl

theorem IsLookedUp.walk_free (hnode : tree.node? (location ++ [name]) = none) :
    tree.walk aim links location (name :: rest) =
      if rest.isEmpty then .ok (.free (location ++ [name])) else .error .notFound := by
  rw [h.walk_eq hopen, hnode]

theorem IsLookedUp.walk_directory
    (hnode : tree.node? (location ++ [name]) = some .directory) :
    tree.walk aim links location (name :: rest) =
      tree.walk aim links (location ++ [name]) rest := by
  rw [h.walk_eq hopen, hnode]

theorem IsLookedUp.walk_file (hnode : tree.node? (location ++ [name]) = some (.file content)) :
    tree.walk aim links location (name :: rest) =
      if rest.isEmpty then .ok (.file (location ++ [name]) content) else .error .notDirectory := by
  rw [h.walk_eq hopen, hnode]

theorem IsLookedUp.walk_link {target : String}
    (hnode : tree.node? (location ++ [name]) = some (.link target)) :
    tree.walk aim (links + 1) location (name :: rest) =
      tree.walk aim links (startOf location (.ofText target)) (Path.names target ++ rest) := by
  rw [h.walk_eq hopen, hnode]

theorem IsLookedUp.walk_last_link {target : String}
    (hnode : tree.node? (location ++ [name]) = some (.link target)) :
    tree.walk aim 0 location (name :: rest) = .error .tooManyLinks := by
  rw [h.walk_eq hopen, hnode]

end Steps

/-- No walk has another result than the one that the rules give. -/
theorem Leads.walk_eq (h : tree.Leads aim links location names result) :
    tree.walk aim links location names = result := by
  induction h with
  | arrived => rw [walk]
  | skipped _ ih => rw [walk, if_pos rfl, ih]
  | shut hnamed hshut => rw [walk, if_neg hnamed, hshut]
  | here hopen _ ih =>
      rw [walk, if_neg (by decide), hopen]
      exact (if_pos rfl).trans ih
  | above hopen _ ih =>
      rw [walk, if_neg (by decide), hopen]
      exact (if_neg (by decide)).trans ((if_pos rfl).trans ih)
  | slashed hopen hnamed hhere hbelow hslash =>
      rw [walk, if_neg hnamed, hopen]
      simp only [if_neg hhere, if_neg hbelow, if_pos hslash]
  | long hopen hnamed hhere hbelow hadmitted hlong =>
      rw [walk, if_neg hnamed, hopen]
      simp only [if_neg hhere, if_neg hbelow, if_neg hadmitted, if_pos hlong]
  | free hopen hname hnode =>
      rw [hname.walk_free hopen hnode]
      rfl
  | missing hopen hname hmore hnode =>
      rw [hname.walk_free hopen hnode, if_neg (mt List.isEmpty_iff.mp hmore)]
  | directory hopen hname hnode _ ih => rw [hname.walk_directory hopen hnode, ih]
  | file hopen hname hnode =>
      rw [hname.walk_file hopen hnode]
      rfl
  | blocked hopen hname hmore hnode =>
      rw [hname.walk_file hopen hnode, if_neg (mt List.isEmpty_iff.mp hmore)]
  | exhausted hopen hname hnode => rw [hname.walk_last_link hopen hnode]
  | link hopen hname hnode _ ih => rw [hname.walk_link hopen hnode, ih]

theorem leads_iff :
    tree.Leads aim links location names result ↔
      tree.walk aim links location names = result := by
  refine ⟨Leads.walk_eq, ?_⟩
  rintro rfl
  exact leads_walk tree aim links location names

/-- Names that lead to a free place end there. -/
theorem node?_of_walk_free (h : tree.walk aim links location names = .ok (.free place)) :
    tree.node? place = none := by
  replace h := leads_iff.mpr h
  generalize hfree : Except.ok (Place.free place) = found at h
  induction h with
  | skipped _ ih | here _ _ ih | above _ _ ih | directory _ _ _ _ ih | link _ _ _ _ ih =>
      exact ih hfree
  | free _ _ hnode =>
      cases hfree
      exact hnode
  | _ => cases hfree

/-- Whatever a walk may be made for, where it comes to a place it comes to the same by looking. -/
theorem walk_look_of_ok {found : Place} (h : tree.walk aim links location names = .ok found) :
    tree.walk .look links location names = .ok found := by
  replace h := leads_iff.mpr h
  apply Leads.walk_eq
  generalize hfound : Except.ok found = result at h ⊢
  induction h with
  | arrived => exact .arrived
  | skipped _ ih => exact .skipped (ih hfound)
  | here hopen _ ih => exact .here hopen (ih hfound)
  | above hopen _ ih => exact .above hopen (ih hfound)
  | free hopen hname hnode => exact .free hopen (hname.isLookedUp _) hnode
  | directory hopen hname hnode _ ih =>
      exact .directory hopen (hname.isLookedUp _) hnode (ih hfound)
  | file hopen hname hnode => exact .file hopen (hname.isLookedUp _) hnode
  | link hopen hname hnode _ ih => exact .link hopen (hname.isLookedUp _) hnode (ih hfound)
  | _ => cases hfound

/-- Behind names that lead to a directory, a walk goes on from there, with the links that are left.
Nothing but slashes behind them would say more of the last of these names. -/
theorem walk_append (h : tree.walk .look links location names = .ok (.directory place))
    (hrest : rest.all (· == "") = false) :
    ∃ left ≤ links, tree.walk aim links location (names ++ rest) =
      tree.walk aim left place rest := by
  have hadmitted (more : List String) :
      ¬(aim = .write ∧ closesWithSlash (more ++ rest) = true) := by
    rintro ⟨-, hslash⟩
    rw [closesWithSlash, List.all_append, hrest] at hslash
    simp at hslash
  suffices hleads : ∃ left ≤ links, ∀ result, tree.Leads aim left place rest result →
      tree.Leads aim links location (names ++ rest) result by
    obtain ⟨left, hleft, hon⟩ := hleads
    exact ⟨left, hleft, (hon _ (leads_walk tree aim left place rest)).walk_eq⟩
  replace h := leads_iff.mpr h
  generalize hfound : Except.ok (Place.directory place) = found at h
  induction h with
  | arrived =>
      cases hfound
      exact ⟨_, Nat.le_refl _, fun _ hresult => hresult⟩
  | skipped _ ih =>
      obtain ⟨left, hleft, hon⟩ := ih hfound
      exact ⟨left, hleft, fun result hresult => .skipped (hon result hresult)⟩
  | here hopen _ ih =>
      obtain ⟨left, hleft, hon⟩ := ih hfound
      exact ⟨left, hleft, fun result hresult => .here hopen (hon result hresult)⟩
  | above hopen _ ih =>
      obtain ⟨left, hleft, hon⟩ := ih hfound
      exact ⟨left, hleft, fun result hresult => .above hopen (hon result hresult)⟩
  | directory hopen hname hnode _ ih =>
      obtain ⟨left, hleft, hon⟩ := ih hfound
      exact ⟨left, hleft, fun result hresult =>
        .directory hopen ⟨hname.toIsEntryName, hadmitted _⟩ hnode (hon result hresult)⟩
  | link hopen hname hnode _ ih =>
      obtain ⟨left, hleft, hon⟩ := ih hfound
      refine ⟨left, Nat.le_succ_of_le hleft, fun result hresult => ?_⟩
      have hbehind := hon result hresult
      rw [List.append_assoc] at hbehind
      exact .link hopen ⟨hname.toIsEntryName, hadmitted _⟩ hnode hbehind
  | _ => cases hfound

/-- Why names that lead to no directory cannot be followed by others. -/
def hindrance : Except OsFault Place → OsFault
  | .error fault => fault
  | .ok (.free _) => .notFound
  | .ok _ => .notDirectory

theorem Leads.append (h : tree.Leads .look links location names result)
    (hresult : ∀ place, result ≠ .ok (.directory place)) (hrest : rest ≠ []) :
    tree.Leads .look links location (names ++ rest) (.error (hindrance result)) := by
  have hmore (more : List String) : more ++ rest ≠ [] := List.append_ne_nil_of_right_ne_nil _ hrest
  induction h with
  | arrived => exact absurd rfl (hresult _)
  | skipped _ ih => exact .skipped (ih hresult)
  | shut hnamed hshut => exact .shut hnamed hshut
  | here hopen _ ih => exact .here hopen (ih hresult)
  | above hopen _ ih => exact .above hopen (ih hresult)
  | slashed _ _ _ _ hslash => cases hslash.1
  | long hopen hnamed hhere hbelow _ hlong =>
      exact .long hopen hnamed hhere hbelow (by simp) hlong
  | free hopen hname hnode | missing hopen hname _ hnode =>
      exact .missing hopen (hname.isLookedUp _) (hmore _) hnode
  | directory hopen hname hnode _ ih =>
      exact .directory hopen (hname.isLookedUp _) hnode (ih hresult)
  | file hopen hname hnode | blocked hopen hname _ hnode =>
      exact .blocked hopen (hname.isLookedUp _) (hmore _) hnode
  | exhausted hopen hname hnode => exact .exhausted hopen (hname.isLookedUp _) hnode
  | link hopen hname hnode _ ih =>
      have hbehind := ih hresult
      rw [List.append_assoc] at hbehind
      exact .link hopen (hname.isLookedUp _) hnode hbehind

/-- Behind names that lead to no directory, a look comes to nothing. -/
theorem walk_append_of_ne_directory
    (h : ∀ place, tree.walk .look links location names ≠ .ok (.directory place))
    (hrest : rest ≠ []) :
    tree.walk .look links location (names ++ rest) =
      .error (hindrance (tree.walk .look links location names)) :=
  ((leads_walk tree .look links location names).append h hrest).walk_eq

section Reached

/-- From the root, the names of a place lead through open directories, and through no link. -/
inductive Reached (tree : FileTree) : Location → Prop
  | root : Reached tree []
  | entry {place : Location} {name : String} (hplace : Reached tree place)
      (hname : IsEntryName name) (hopen : tree.denial? place .search = none)
      (hnode : tree.node? (place ++ [name]) = some .directory) : Reached tree (place ++ [name])

/-- What the last name of a path comes to, unless a link stands at its place. -/
inductive Stands (tree : FileTree) (location : Location) : Place → Prop
  | free (hnode : tree.node? location = none) : Stands tree location (.free location)
  | directory (hnode : tree.node? location = some .directory) :
      Stands tree location (.directory location)
  | file {content : List UInt8} (hnode : tree.node? location = some (.file content)) :
      Stands tree location (.file location content)

theorem Stands.of_eq {other : FileTree} {found : Place} (h : tree.Stands location found)
    (hsame : other.node? location = tree.node? location) : other.Stands location found := by
  cases h with
  | free hnode => exact .free (hsame.trans hnode)
  | directory hnode => exact .directory (hsame.trans hnode)
  | file hnode => exact .file (hsame.trans hnode)

theorem Stands.leads {found : Place} (h : tree.Stands (place ++ [name]) found)
    (hname : IsEntryName name) (hopen : tree.denial? place .search = none) :
    tree.Leads aim links place [name] (.ok found) := by
  have hlast := hname.isLookedUp_last aim
  cases h with
  | free hnode => exact .free hopen hlast hnode
  | directory hnode => exact .directory hopen hlast hnode .arrived
  | file hnode => exact .file hopen hlast hnode

theorem Stands.walk_append {found : Place} (h : tree.Stands (place ++ [name]) found)
    (hplace : tree.walk .look links location names = .ok (.directory place))
    (hname : IsEntryName name) (hopen : tree.denial? place .search = none) :
    tree.walk aim links location (names ++ [name]) = .ok found := by
  have hrest : [name].all (· == "") = false := by simp [hname.named]
  obtain ⟨left, -, hwalk⟩ := FileTree.walk_append hplace hrest
  rw [hwalk, (h.leads hname hopen).walk_eq]

theorem Reached.walk_eq (h : tree.Reached place) :
    tree.walk .look links [] place = .ok (.directory place) := by
  induction h with
  | root => exact Leads.arrived.walk_eq
  | entry _ hname hopen hnode ih => exact (Stands.directory hnode).walk_append ih hname hopen

theorem Reached.take (h : tree.Reached place) (count : Nat) : tree.Reached (place.take count) := by
  induction h with
  | root =>
      rw [List.take_nil]
      exact .root
  | @entry place name hplace hname hopen hnode ih =>
      rcases Nat.lt_or_ge place.length count with hlt | hle
      · have hwhole : (place ++ [name]).length ≤ count := by
          rw [List.length_append, List.length_singleton]
          omega
        rw [List.take_of_length_le hwhole]
        exact .entry hplace hname hopen hnode
      · rw [List.take_append_of_le_length hle]
        exact ih

/-- In a directory that is reached, the path of an entry comes to what stands at its place. -/
theorem Reached.locate_eq (h : tree.Reached place) (hname : IsEntryName name)
    (hopen : tree.denial? place .search = none) {found : Place}
    (hsize : ¬pathLimit < (Path.ofLocation (place ++ [name])).render.utf8ByteSize)
    (hstands : tree.Stands (place ++ [name]) found) (aim : Aim) :
    tree.locate aim current (.ofLocation (place ++ [name])) = .ok found := by
  rw [locate, if_neg hsize]
  exact hstands.walk_append h.walk_eq hname hopen

theorem Reached.leadsTo_eq (h : tree.Reached place) (hname : IsEntryName name)
    (hopen : tree.denial? place .search = none) {kind : Place → Bool} {found : Place}
    (hsize : ¬pathLimit < (Path.ofLocation (place ++ [name])).render.utf8ByteSize)
    (hstands : tree.Stands (place ++ [name]) found) :
    tree.leadsTo current (.ofLocation (place ++ [name])) kind = .ok (kind found) := by
  rw [leadsTo, h.locate_eq hname hopen hsize hstands]

end Reached

end FileTree

end Sexpr
