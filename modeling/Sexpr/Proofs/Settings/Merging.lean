import Mathlib.Data.List.Nodup
import Sexpr.Proofs.Settings.Slots
import Sexpr.Settings.Load

/-!
What a merge does, exactly. It goes through the slots of a table and comes past those before the
first one with a value of a wrong kind. The keys among the slots that it has come past are assigned,
and the unknown keys of the sections among them are warned about; that first value, if there is one,
is what the merge complains about. A complaint is reported only if its value can be shown.
-/

namespace Sexpr

open Entries

namespace Entries

/-- The entries of a section, if it is there and a table. -/
def entriesIn (table : Entries) (part : Section) : Entries :=
  match table.lookup part.name with
  | some (.table entries) => entries
  | _ => []

def namesBut (entries : Entries) (known : List String) : List String :=
  (entries.map Prod.fst).filter (!known.contains ·)

def warningsIn (source : String) (table : Entries) (part : Section) : List UnknownKey :=
  ((table.entriesIn part).namesBut (part.keys.map Key.name)).map
    fun name => ⟨part.name ++ "." ++ name, source⟩

end Entries

namespace Profile

variable (source : String) (table : Entries)

theorem unknownIn_eq (part : Section) (entries : Entries) :
    unknownIn source part entries = (entries.namesBut (part.keys.map Key.name)).map
      fun name => ⟨part.name ++ "." ++ name, source⟩ := by
  rw [unknownIn, namesBut, List.filter_map, List.map_map]
  rfl

theorem unknownSections_eq :
    unknownSections source table =
      (table.namesBut (Section.all.map Section.name)).map (⟨·, source⟩) := by
  have hknown : ∀ name, (Section.ofName? name).isNone =
      !(Section.all.map Section.name).contains name := by
    intro name
    rw [Section.ofName?, ← Option.not_isSome, List.isSome_find?, List.contains_map]
    congr 2
    exact funext fun part => BEq.comm
  rw [unknownSections, namesBut, List.filter_map, List.map_map]
  simp only [hknown]
  rfl

theorem any_misfits (part : Section) :
    (Slot.within part).any table.misfits =
      ((table.requestsIn part).find? (!·.fits)).isSome := by
  rw [requestsIn_eq, List.isSome_find?, List.any_filterMap]
  rfl

/-- One section of a merge: its unknown keys are warned about unless it is no table, and the merge
goes on unless something in it does not fit. -/
theorem mergeSections_unknown_cons (part : Section) (parts : List Section) (profile : Profile) :
    ∃ next : Profile, (profile.mergeSections source table (part :: parts)).unknown =
      (if table.misfits (.whole part) then [] else table.warningsIn source part) ++
        if (Slot.within part).any table.misfits then []
        else (next.mergeSections source table parts).unknown := by
  have hwhole : table.misfits (.whole part) =
      ((table.lookup part.name).bind (Slot.request? (.whole part))).any (!·.fits) := rfl
  rw [mergeSections, any_misfits, hwhole, requestsIn, warningsIn, entriesIn, ← unknownIn_eq]
  cases table.lookup part.name with
  | none => exact ⟨profile, rfl⟩
  | some value =>
    cases value with
    | table entries =>
      simp only [assignKeys_eq, grantAll_eq]
      cases (requestsFor entries part.keys).find? (!·.fits) with
      | none => exact ⟨_, rfl⟩
      | some request => exact ⟨profile, (List.append_nil _).symm⟩
    | moment moment => cases moment <;> exact ⟨profile, rfl⟩
    | _ => exact ⟨profile, rfl⟩

/-- The slots of a section are come past up to the first misfit, those of the next ones only if
there is none. -/
theorem mem_passed_cons {part : Section} {parts : List Section} {slot : Slot} :
    slot ∈ table.passed (part :: parts) ↔
      slot ∈ (Slot.within part).takeWhile (!table.misfits ·) ∨
        (Slot.within part).any table.misfits = false ∧ slot ∈ table.passed parts := by
  rw [passed, List.flatMap_cons]
  cases hmisfit : (Slot.within part).any table.misfits with
  | false =>
    have hall : ∀ slot ∈ Slot.within part, (!table.misfits slot) = true := by
      simpa using hmisfit
    rw [List.takeWhile_append_of_pos hall, List.takeWhile_eq_self_iff.mpr hall, List.mem_append,
      passed]
    simp
  | true =>
    have hstop : ¬((Slot.within part).takeWhile (!table.misfits ·)).length =
        (Slot.within part).length := by
      intro hlength
      have hself := (List.takeWhile_prefix (!table.misfits ·)).eq_of_length hlength
      obtain ⟨misfit, hmem, htrue⟩ := List.any_eq_true.mp hmisfit
      have hfits := List.takeWhile_eq_self_iff.mp hself misfit hmem
      rw [htrue] at hfits
      cases hfits
    rw [List.takeWhile_append, if_neg hstop]
    simp

theorem whole_mem_takeWhile_within {part other : Section} :
    .whole other ∈ (Slot.within part).takeWhile (!table.misfits ·) ↔
      other = part ∧ table.misfits (.whole part) = false := by
  have hkeys : Slot.whole other ∉ (part.keys.map Slot.single).takeWhile (!table.misfits ·) := by
    intro hmem
    simpa using (List.takeWhile_sublist _).subset hmem
  rw [Slot.within, List.takeWhile_cons]
  cases table.misfits (.whole part) with
  | false => simp [hkeys]
  | true => simp

/-- A merge warns about the sections whose slots it comes past. -/
theorem mergeSections_unknown {parts : List Section} (h : parts.Nodup) (profile : Profile) :
    (profile.mergeSections source table parts).unknown =
      (parts.filter (.whole · ∈ table.passed parts)).flatMap (table.warningsIn source) := by
  induction parts generalizing profile with
  | nil => rfl
  | cons part parts ih =>
    obtain ⟨hfresh, hparts⟩ := List.nodup_cons.mp h
    obtain ⟨next, hstep⟩ := mergeSections_unknown_cons source table part parts profile
    have hhead : .whole part ∈ table.passed (part :: parts) ↔
        table.misfits (.whole part) = false := by
      rw [mem_passed_cons, whole_mem_takeWhile_within]
      constructor
      · rintro (⟨-, hwhole⟩ | ⟨hnone, -⟩)
        · exact hwhole
        · exact Bool.eq_false_iff.mpr (List.any_eq_false.mp hnone _ List.mem_cons_self)
      · exact fun hwhole => .inl ⟨rfl, hwhole⟩
    have hother : ∀ other ∈ parts, (.whole other ∈ table.passed (part :: parts) ↔
        (Slot.within part).any table.misfits = false ∧
          .whole other ∈ table.passed parts) := by
      intro other hother
      have hne : other ≠ part := ne_of_mem_of_not_mem hother hfresh
      rw [mem_passed_cons, whole_mem_takeWhile_within]
      simp [hne]
    have hothers : parts.filter (.whole · ∈ table.passed (part :: parts)) =
        if (Slot.within part).any table.misfits then []
        else parts.filter (.whole · ∈ table.passed parts) := by
      split
      · next hmisfit =>
        exact List.filter_eq_nil_iff.mpr fun other hmem => by simp [hother other hmem, hmisfit]
      · next hfits =>
        exact List.filter_congr fun other hmem => by simp [hother other hmem, hfits]
    have htail : (if (Slot.within part).any table.misfits then []
        else (parts.filter (.whole · ∈ table.passed parts)).flatMap (table.warningsIn source)) =
        (if (Slot.within part).any table.misfits then []
        else parts.filter (.whole · ∈ table.passed parts)).flatMap (table.warningsIn source) := by
      split <;> rfl
    rw [hstep, ih hparts, htail, ← hothers]
    by_cases hwhole : table.misfits (.whole part) = true
    · rw [if_pos hwhole, List.filter_cons_of_neg (by simp [hhead, hwhole]), List.nil_append]
    · rw [if_neg hwhole, List.filter_cons_of_pos (by simp [hhead, hwhole]), List.flatMap_cons]

end Profile

/-- What a merge ends with, unless it comes to its end: a report, or a breakdown where a value
cannot be shown. -/
def Merge.failure? (limits : Limits) (merged : Merge) : Option LoadFault :=
  merged.fault.map (.ofWrongKind limits)

namespace Profile

/-- What a merge of a table from a source leaves behind when it has come past some slots: the keys
among them that the table holds are assigned, all else is as before, and all unknown sections and
the unknown keys of the sections among the slots are warned about. -/
structure ComesPast (profile : Profile) (source : String) (table : Entries) (slots : List Slot)
    (merged : Merge) : Prop where
  assigned : ∀ key value, .single key ∈ slots → table.Holds (.single key) value →
    merged.profile.settings.get key = value ∧ merged.profile.origin key = some source
  kept : ∀ key, (.single key ∈ slots → ∀ value, ¬table.Holds (.single key) value) →
    merged.profile.settings.get key = profile.settings.get key ∧
      merged.profile.origin key = profile.origin key
  unknown : merged.unknown =
    (table.namesBut (Section.all.map Section.name)).map (⟨·, source⟩) ++
      (Section.all.filter (.whole · ∈ slots)).flatMap (table.warningsIn source)

variable (source : String) {table : Entries}

/-- The warnings of a merge depend on the table alone. -/
theorem merge_unknown (profile : Profile) (table : Entries) :
    (profile.merge source table).unknown =
      (table.namesBut (Section.all.map Section.name)).map (⟨·, source⟩) ++
        (Section.all.filter (.whole · ∈ table.passed Section.all)).flatMap
          (table.warningsIn source) := by
  rw [merge, unknownSections_eq, mergeSections_unknown source table (by decide) profile]

theorem merge_comesPast (profile : Profile) (h : table.Distinct) :
    profile.ComesPast source table (table.passed Section.all) (profile.merge source table) := by
  have hshows := lay_shows ⟨source, table⟩ profile
  have hsaid : ∀ key, Layer.says? ⟨source, table⟩ key =
      (table.at? (.single key)).map (⟨key, ·, source⟩) := fun _ => rfl
  refine ⟨fun key value hpassed hholds => ?_, fun key hunheld => ?_,
    merge_unknown source profile table⟩
  · obtain ⟨hvalue, horigin⟩ := hshows key
    rw [Layer.lastTo_assignments, if_pos hpassed, hsaid, h.at?_eq_some_iff.mpr hholds]
      at hvalue horigin
    exact ⟨hvalue, horigin⟩
  · obtain ⟨hvalue, horigin⟩ := hshows key
    have hlast : lastTo key (Layer.assignments ⟨source, table⟩) = none := by
      rw [Layer.lastTo_assignments]
      split
      · next hpassed =>
        rw [hsaid, Option.map_eq_none_iff, Option.eq_none_iff_forall_ne_some]
        exact fun value hheld => hunheld hpassed value (h.at?_eq_some_iff.mp hheld)
      · rfl
    rw [hlast] at hvalue horigin
    exact ⟨hvalue, horigin⟩

/-- The slots are come past up to the first misfit, which a merge complains about. -/
theorem merge_fault_of_split (profile : Profile) {before after : List Slot} {slot : Slot}
    {value : Value} (hall : Slot.all = before ++ slot :: after)
    (hbefore : ∀ earlier ∈ before, table.misfits earlier = false)
    (hvalue : table.at? slot = some value) (hkind : value.kind ≠ slot.kind) :
    table.passed Section.all = before ∧
      (profile.merge source table).fault = some ⟨slot.name, source, slot.kind, value⟩ := by
  have hmisfit : table.misfits slot = true := misfits_eq_true_iff.mpr ⟨value, hvalue, hkind⟩
  have hfirst : Slot.all.find? table.misfits = some slot :=
    List.find?_eq_some_iff_append.mpr ⟨hmisfit, before, after, hall, by simpa using hbefore⟩
  constructor
  · rw [passed, ← Slot.all, hall, List.takeWhile_append_of_pos (by simpa using hbefore),
      List.takeWhile_cons_of_neg (by simp [hmisfit]), List.append_nil]
  · rw [merge_fault, find?_requests, hfirst, Option.bind_some, requestAt?, hvalue,
      Option.bind_some]
    cases slot with
    | whole part =>
      have htable : ¬value.kind = .table := hkind
      rw [Slot.request?, if_neg htable]
      rfl
    | single key => rfl

theorem merge_of_no_misfit (profile : Profile) (h : ∀ slot ∈ Slot.all, table.misfits slot = false) :
    table.passed Section.all = Slot.all ∧ (profile.merge source table).fault = none := by
  constructor
  · rw [passed, ← Slot.all]
    exact List.takeWhile_eq_self_iff.mpr fun slot hslot => by simp [h slot hslot]
  · rw [merge_fault, find?_requests, List.find?_eq_none.mpr (by simpa using h)]
    rfl

/-- A merge comes past all slots, or up to the first one with a value of a wrong kind. -/
theorem merge_ends (limits : Limits) (profile : Profile) (source : String) {table : Entries}
    (h : table.Distinct) :
    ((∀ slot, ¬table.Offends slot) ∧ (profile.merge source table).failure? limits = none ∧
      profile.ComesPast source table Slot.all (profile.merge source table)) ∨
    ∃ before slot after value, Slot.all = before ++ slot :: after ∧
      (∀ earlier ∈ before, ¬table.Offends earlier) ∧
      table.Holds slot value ∧ value.kind ≠ slot.kind ∧
      profile.ComesPast source table before (profile.merge source table) ∧
      (profile.merge source table).failure? limits = some ((value.obstacle? limits).elim
        (.config (.wrongKind ⟨slot.name, source, slot.kind, value⟩)) .broken) := by
  have hpast := profile.merge_comesPast source h
  have hoffends : ∀ slot, table.misfits slot = false → ¬table.Offends slot := by
    intro slot hfits hoffends
    rw [h.misfits_iff.mpr hoffends] at hfits
    cases hfits
  cases hfirst : Slot.all.find? table.misfits with
  | none =>
    have hfits : ∀ slot ∈ Slot.all, table.misfits slot = false := by
      simpa using List.find?_eq_none.mp hfirst
    obtain ⟨hpassed, hfault⟩ := profile.merge_of_no_misfit source hfits
    rw [hpassed] at hpast
    refine .inl ⟨fun slot => hoffends slot (hfits slot slot.mem_all), ?_, hpast⟩
    rw [Merge.failure?, hfault]
    rfl
  | some slot =>
    obtain ⟨hmisfit, before, after, hall, hbefore⟩ := List.find?_eq_some_iff_append.mp hfirst
    obtain ⟨value, hvalue, hkind⟩ := misfits_eq_true_iff.mp hmisfit
    have hfits : ∀ earlier ∈ before, table.misfits earlier = false := by simpa using hbefore
    obtain ⟨hpassed, hfault⟩ := profile.merge_fault_of_split source hall hfits hvalue hkind
    rw [hpassed] at hpast
    refine .inr ⟨before, slot, after, value, hall,
      fun earlier hearlier => hoffends earlier (hfits earlier hearlier),
      h.at?_eq_some_iff.mp hvalue, hkind, hpast, ?_⟩
    rw [Merge.failure?, hfault, Option.map_some, LoadFault.ofWrongKind]
    cases value.obstacle? limits <;> rfl

/-- A merge of a table without repeated keys goes through the sections in their order and in each
through its keys, sorted by name. It comes to its end just if every value at these slots is of the
kind that the slot takes. Otherwise it ends at the first one that is not, with all keys before it
assigned and nothing else; that value is reported, if it can be shown. -/
theorem merge_up_to_misfit (limits : Limits) (profile : Profile) (source : String)
    {table : Entries} (h : table.Distinct) :
    (∀ part : Section, (part.keys.map Key.name).Pairwise (· < ·)) ∧
    ((profile.merge source table).failure? limits = none ↔ ∀ slot, ¬table.Offends slot) ∧
    ((profile.merge source table).failure? limits = none →
      profile.ComesPast source table Slot.all (profile.merge source table)) ∧
    ∀ failure, (profile.merge source table).failure? limits = some failure →
      ∃ before slot after value, Slot.all = before ++ slot :: after ∧
        (∀ earlier ∈ before, ¬table.Offends earlier) ∧
        table.Holds slot value ∧ value.kind ≠ slot.kind ∧
        profile.ComesPast source table before (profile.merge source table) ∧
        failure = (value.obstacle? limits).elim
          (.config (.wrongKind ⟨slot.name, source, slot.kind, value⟩)) .broken := by
  have hsorted : ∀ part : Section, (part.keys.map Key.name).Pairwise (· < ·) := by
    intro part
    cases part <;> decide
  refine ⟨hsorted, ?_⟩
  rcases profile.merge_ends limits source h with ⟨hfits, hnone, hpast⟩ |
    ⟨before, slot, after, value, hall, hbefore, hholds, hkind, hpast, hsome⟩
  · rw [hnone]
    exact ⟨⟨fun _ => hfits, fun _ => rfl⟩, fun _ => hpast, nofun⟩
  · rw [hsome]
    refine ⟨⟨nofun, fun hfits => absurd ⟨value, hholds, hkind⟩ (hfits slot)⟩, nofun, ?_⟩
    rintro failure ⟨⟩
    exact ⟨before, slot, after, value, hall, hbefore, hholds, hkind, hpast, rfl⟩

/-- A flag for a number, behind a section of which everything fits. -/
theorem merge_up_to_misfit_second :
    let table : Entries := [("odd", .int 1), ("display", .table [("kind_width", .flag true)]),
      ("parser", .table [("odd", .int 2), ("strict", .flag false)])]
    table.Distinct ∧ ∃ before after, Slot.all = before ++ .single .kindWidth :: after ∧
      default.ComesPast "f" table before (default.merge "f" table) ∧
      (default.merge "f" table).failure? .usual =
        some (.config (.wrongKind ⟨"display.kind_width", "f", .int, .flag true⟩)) := by
  intro table
  have hdistinct : table.Distinct := by
    refine ⟨by decide, fun part entries hmem => ?_⟩
    cases part <;> simp [table, Section.name] at hmem <;> subst hmem <;> decide
  have hfailure : (default.merge "f" table).failure? .usual =
      some (.config (.wrongKind ⟨"display.kind_width", "f", .int, .flag true⟩)) := rfl
  obtain ⟨-, -, -, hends⟩ := merge_up_to_misfit .usual default "f" hdistinct
  obtain ⟨before, slot, after, value, hall, -, -, -, hpast, hreport⟩ := hends _ hfailure
  obtain rfl : slot = .single .kindWidth := by
    cases hobstacle : value.obstacle? .usual with
    | none =>
      rw [hobstacle, Option.elim_none, LoadFault.config.injEq, ConfigFault.wrongKind.injEq,
        WrongKind.mk.injEq] at hreport
      have hname := hreport.1
      revert hname
      cases slot with
      | whole part => cases part <;> decide
      | single key => cases key <;> decide
    | some cause =>
      rw [hobstacle] at hreport
      cases hreport
  exact ⟨hdistinct, before, after, hall, hpast, hfailure⟩

/-- An integer that takes more than 4300 digits is there for a flag: nothing is reported. -/
theorem merge_unshown :
    let table : Entries := [("parser", .table [("strict", .int (Nat.pow 16 3600))])]
    table.Distinct ∧ table.Offends (.single .strict) ∧
      ∀ fault, (default.merge "f" table).failure? .usual ≠ some (.config fault) := by
  have hlong : ¬Nat.pow 16 3600 < Nat.pow 10 Breakdown.digitLimit := by
    decide +kernel
  -- From here on the number is only known to be that long.
  generalize Nat.pow 16 3600 = number at hlong
  intro table
  have hdistinct : table.Distinct := by
    refine ⟨List.nodup_singleton _, fun part entries hmem => ?_⟩
    cases part <;> simp [table, Section.name] at hmem
    subst hmem
    exact List.nodup_singleton _
  have hobstacle : (Value.int number).obstacle? .usual = some .longInteger := by
    rw [Value.obstacle?, Value.obstacleWithin, Breakdown.ofInteger?, Int.natAbs_natCast,
      if_neg hlong]
  have hfailure : (default.merge "f" table).failure? .usual =
      some (.ofWrongKind .usual ⟨"parser.strict", "f", .flag, .int number⟩) := rfl
  refine ⟨hdistinct, ⟨.int number, .single List.mem_cons_self List.mem_cons_self, nofun⟩, ?_⟩
  intro fault
  rw [hfailure, LoadFault.ofWrongKind, hobstacle]
  nofun

end Profile

end Sexpr
