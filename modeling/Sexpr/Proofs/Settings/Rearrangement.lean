import Mathlib.Data.List.Perm.Basic
import Sexpr.Proofs.Settings.Merging

/-!
The order of a table's entries. A merge looks keys up and goes through them in an order of its own,
so what it assigns and what it complains about do not depend on the order in which the entries were
written; only the warnings come in that order. A second merge of the same table finds everything
done.
-/

namespace Sexpr

namespace Entries

/-- Tables that differ only in the order of their entries, and of the entries in their sections. -/
inductive Rearranged : Entries → Entries → Prop
  | outside {table table' : Entries} : table.Perm table' → Rearranged table table'
  | inside (part : Section) {front back entries entries' : Entries} : entries.Perm entries' →
    Rearranged (front ++ (part.name, .table entries) :: back)
      (front ++ (part.name, .table entries') :: back)
  | trans {table between table' : Entries} : Rearranged table between →
    Rearranged between table' → Rearranged table table'

/-- Tables that ask for the same and have the same keys, whatever the order of the keys. -/
structure Alike (table table' : Entries) : Prop where
  requestAt? : ∀ slot, table.requestAt? slot = table'.requestAt? slot
  names : (table.map Prod.fst).Perm (table'.map Prod.fst)
  entriesIn : ∀ part, (table.entriesIn part).Perm (table'.entriesIn part)

theorem lookup_eq_of_perm {entries entries' : Entries} (h : entries.Perm entries')
    (hdistinct : (entries.map Prod.fst).Nodup) (name : String) :
    entries.lookup name = entries'.lookup name := by
  have hdistinct' : (entries'.map Prod.fst).Nodup := (h.map Prod.fst).nodup_iff.mp hdistinct
  ext value
  rw [lookup_eq_some_iff_mem hdistinct, lookup_eq_some_iff_mem hdistinct', h.mem_iff]

/-- The entry of a key is found wherever it stands. -/
theorem lookup_middle {front back : Entries} {name : String} {value : Value}
    (h : ((front ++ (name, value) :: back).map Prod.fst).Nodup) (other : String) :
    (front ++ (name, value) :: back).lookup other =
      if other = name then some value else (front ++ back).lookup other := by
  split
  · next heq =>
    subst heq
    exact (lookup_eq_some_iff_mem h).mpr (by simp)
  · next hne =>
    have hdiffer : (other == name) = false := by simpa using hne
    rw [List.lookup_append, List.lookup_append, List.lookup_cons, hdiffer]

theorem Distinct.of_perm {table table' : Entries} (hdistinct : table.Distinct)
    (h : table.Perm table') : table'.Distinct :=
  ⟨(h.map Prod.fst).nodup_iff.mp hdistinct.names,
    fun part entries hmem => hdistinct.inside part entries (h.mem_iff.mpr hmem)⟩

theorem Alike.of_perm {table table' : Entries} (hdistinct : table.Distinct)
    (h : table.Perm table') : table.Alike table' := by
  have hlookup := lookup_eq_of_perm h hdistinct.names
  have hat : ∀ slot, table.at? slot = table'.at? slot := by
    intro slot
    cases slot with
    | whole part => exact hlookup part.name
    | single key => rw [at?, at?, value?, value?, hlookup]
  refine ⟨fun slot => ?_, h.map Prod.fst, fun part => ?_⟩
  · rw [Entries.requestAt?, Entries.requestAt?, hat]
  · rw [Entries.entriesIn, Entries.entriesIn, hlookup]

section Inside

variable {part : Section} {front back entries entries' : Entries}

theorem Distinct.of_inside
    (hdistinct : Distinct (front ++ (part.name, .table entries) :: back))
    (h : entries.Perm entries') : Distinct (front ++ (part.name, .table entries') :: back) := by
  have hentries := hdistinct.inside part entries (by simp)
  refine ⟨by simpa using hdistinct.names, fun other others hmem => ?_⟩
  rcases List.mem_append.mp hmem with hfront | hmem
  · exact hdistinct.inside other others (List.mem_append_left _ hfront)
  rcases List.mem_cons.mp hmem with heq | hback
  · obtain rfl : others = entries' := by simpa using (Prod.mk.inj heq).2
    exact (h.map Prod.fst).nodup_iff.mp hentries
  · exact hdistinct.inside other others
      (List.mem_append_right _ (List.mem_cons_of_mem _ hback))

theorem Alike.of_inside
    (hdistinct : Distinct (front ++ (part.name, .table entries) :: back))
    (h : entries.Perm entries') :
    Alike (front ++ (part.name, .table entries) :: back)
      (front ++ (part.name, .table entries') :: back) := by
  have hkeys := lookup_eq_of_perm h (hdistinct.inside part entries (by simp))
  have hlookup (name : String) :
      (List.lookup name (front ++ (part.name, .table entries) :: back) = some (.table entries) ∧
        List.lookup name (front ++ (part.name, .table entries') :: back) =
          some (.table entries')) ∨
      List.lookup name (front ++ (part.name, .table entries) :: back) =
        List.lookup name (front ++ (part.name, .table entries') :: back) := by
    rw [lookup_middle hdistinct.names, lookup_middle (hdistinct.of_inside h).names]
    by_cases hname : name = part.name <;> simp [hname]
  refine ⟨fun slot => ?_, by simp, fun other => ?_⟩
  · cases slot with
    | whole other =>
      rw [Entries.requestAt?, Entries.requestAt?, at?, at?]
      rcases hlookup other.name with ⟨hthere, hthere'⟩ | hsame
      · rw [hthere, hthere']
        rfl
      · rw [hsame]
    | single key =>
      rw [Entries.requestAt?, Entries.requestAt?, at?, at?, value?, value?]
      rcases hlookup key.group.name with ⟨hthere, hthere'⟩ | hsame
      · simp only [hthere, hthere', hkeys]
      · rw [hsame]
  · rw [Entries.entriesIn, Entries.entriesIn]
    rcases hlookup other.name with ⟨hthere, hthere'⟩ | hsame
    · rw [hthere, hthere']
      exact h
    · rw [hsame]

end Inside

theorem Alike.trans {table between table' : Entries} (h : table.Alike between)
    (h' : between.Alike table') : table.Alike table' :=
  ⟨fun slot => (h.requestAt? slot).trans (h'.requestAt? slot), h.names.trans h'.names,
    fun part => (h.entriesIn part).trans (h'.entriesIn part)⟩

theorem Rearranged.alike {table table' : Entries} (h : table.Rearranged table')
    (hdistinct : table.Distinct) : table'.Distinct ∧ table.Alike table' := by
  induction h with
  | outside hperm => exact ⟨hdistinct.of_perm hperm, .of_perm hdistinct hperm⟩
  | inside part hperm => exact ⟨hdistinct.of_inside hperm, .of_inside hdistinct hperm⟩
  | trans _ _ ih ih' =>
    obtain ⟨hbetween, halike⟩ := ih hdistinct
    obtain ⟨hdistinct', halike'⟩ := ih' hbetween
    exact ⟨hdistinct', halike.trans halike'⟩

/-- Keys in another order are known or unknown all the same. -/
theorem namesBut_perm {entries entries' : Entries}
    (h : (entries.map Prod.fst).Perm (entries'.map Prod.fst)) (known : List String) :
    (entries.namesBut known).Perm (entries'.namesBut known) :=
  h.filter _

namespace Alike

variable {table table' : Entries}

theorem misfits_eq (h : table.Alike table') : table.misfits = table'.misfits := by
  funext slot
  rw [misfits, misfits, h.requestAt?]

theorem passed_eq (h : table.Alike table') (parts : List Section) :
    table.passed parts = table'.passed parts := by
  rw [passed, passed, h.misfits_eq]

theorem requests_eq (h : table.Alike table') : table.requests = table'.requests := by
  rw [Entries.requests_eq, Entries.requests_eq, funext h.requestAt?]

theorem warningsIn_perm (h : table.Alike table') (source : String) (part : Section) :
    (table.warningsIn source part).Perm (table'.warningsIn source part) :=
  (namesBut_perm ((h.entriesIn part).map Prod.fst) _).map _

end Alike

end Entries

theorem Settings.ext_get {settings other : Settings}
    (h : ∀ key, settings.get key = other.get key) : settings = other := by
  have hformat := h .format
  have hverbose := h .verbose
  have hquiet := h .quiet
  have hstrict := h .strict
  have hwidth := h .kindWidth
  have htokens := h .showTokens
  cases settings
  cases other
  simp_all [Settings.get]

namespace Profile

open Entries

/-- Assigning the same once more changes nothing. -/
theorem Shows.again {before after again : Profile} {log : List Assignment}
    (h : before.Shows after log) (h' : after.Shows again log) : again = after := by
  have hsame : ∀ key, again.settings.get key = after.settings.get key ∧
      again.origin key = after.origin key := by
    intro key
    obtain ⟨hvalue, horigin⟩ := h key
    obtain ⟨hvalue', horigin'⟩ := h' key
    rw [hvalue', horigin', hvalue, horigin]
    cases lastTo key log <;> exact ⟨rfl, rfl⟩
  cases again
  cases after
  exact congrArg₂ Profile.mk (Settings.ext_get fun key => (hsame key).1)
    (funext fun key => (hsame key).2)

variable (source : String) {table table' : Entries}

theorem merge_unknown_perm (profile : Profile) (h : table.Alike table') :
    (profile.merge source table).unknown.Perm (profile.merge source table').unknown := by
  rw [merge_unknown, merge_unknown, h.passed_eq]
  refine ((namesBut_perm h.names _).map _).append ?_
  exact List.Perm.flatMap (.refl _) fun part _ => h.warningsIn_perm source part

theorem merge_again (profile : Profile) (table : Entries) :
    (profile.merge source table).profile.merge source table = profile.merge source table := by
  have hprofile : ((profile.merge source table).profile.merge source table).profile =
      (profile.merge source table).profile :=
    (lay_shows ⟨source, table⟩ profile).again (lay_shows ⟨source, table⟩ _)
  have hunknown := (merge_unknown source (profile.merge source table).profile table).trans
    (merge_unknown source profile table).symm
  have hfault := (merge_fault source table (profile.merge source table).profile).trans
    (merge_fault source table profile).symm
  have heta : ∀ merged : Merge, merged = ⟨merged.profile, merged.unknown, merged.fault⟩ :=
    fun _ => rfl
  rw [heta ((profile.merge source table).profile.merge source table), hprofile, hunknown, hfault]

/-- The order of entries does not matter: tables that differ in nothing else leave the same settings
with the same origins behind, also where the merge ends early, they end it with the same complaint,
and their warnings are the same in another order. Merging a table twice is merging it once. -/
theorem merge_rearranged (profile : Profile) (source : String) {table table' : Entries}
    (hdistinct : table.Distinct) (h : table.Rearranged table') :
    (profile.merge source table').profile = (profile.merge source table).profile ∧
    (profile.merge source table').fault = (profile.merge source table).fault ∧
    (∀ limits, (profile.merge source table').failure? limits =
      (profile.merge source table).failure? limits) ∧
    (profile.merge source table').unknown.Perm (profile.merge source table).unknown ∧
    (profile.merge source table).profile.merge source table = profile.merge source table := by
  obtain ⟨-, halike⟩ := h.alike hdistinct
  have hprofile : (profile.merge source table').profile = (profile.merge source table).profile := by
    rw [merge_profile, merge_profile, halike.requests_eq]
  have hfault : (profile.merge source table').fault = (profile.merge source table).fault := by
    rw [merge_fault, merge_fault, halike.requests_eq]
  refine ⟨hprofile, hfault, ?_, (merge_unknown_perm source profile halike).symm, ?_⟩
  · intro limits
    rw [Merge.failure?, hfault, Merge.failure?]
  · exact merge_again source profile table

/-- Sections and keys the other way round: the same flag is set, and the same value is refused. -/
theorem merge_rearranged_refused :
    let table : Entries := [("odd", .int 1), ("parser", .table [("strict", .int 0)]),
      ("defaults", .table [("verbose", .flag true), ("quiet", .flag true), ("odd", .int 2)])]
    let table' : Entries := [("defaults", .table [("odd", .int 2), ("quiet", .flag true),
      ("verbose", .flag true)]), ("parser", .table [("strict", .int 0)]), ("odd", .int 1)]
    table.Distinct ∧ table.Rearranged table' ∧
      (default.merge "f" table').profile.settings.verbose = true ∧
      (default.merge "f" table').fault = some ⟨"parser.strict", "f", .flag, .int 0⟩ := by
  intro table table'
  have hdistinct : table.Distinct := by
    refine ⟨by decide, fun part entries hmem => ?_⟩
    cases part <;> simp [table, Section.name] at hmem <;> subst hmem <;> decide
  have hinside : Rearranged ([("odd", .int 1), ("parser", .table [("strict", .int 0)])] ++
      [(Section.defaults.name,
        .table [("verbose", .flag true), ("quiet", .flag true), ("odd", .int 2)])])
      ([("odd", .int 1), ("parser", .table [("strict", .int 0)])] ++
      [(Section.defaults.name,
        .table [("odd", .int 2), ("quiet", .flag true), ("verbose", .flag true)])]) :=
    .inside .defaults (List.reverse_perm _).symm
  have hrearranged : table.Rearranged table' :=
    .trans hinside (.outside (List.reverse_perm _).symm)
  obtain ⟨hprofile, hfault, -⟩ := merge_rearranged default "f" hdistinct hrearranged
  rw [hprofile, hfault]
  exact ⟨hdistinct, hrearranged, rfl, rfl⟩

end Profile

end Sexpr
