import Mathlib.Data.List.Basic
import Mathlib.Data.List.TakeWhile
import Sexpr.Proofs.Settings.Layers

/-!
Slots of a settings file. A merge looks at one slot after another: at a section as a whole, and then
at its keys. What a table holds at a slot is read off its entries, and what the table asks for is
what it holds at the slots, in their order. The slots that a merge comes past before the first one
with a value of a wrong kind decide over all that it assigns and warns about.
-/

namespace Sexpr

namespace Section

theorem group_of_mem_keys {part : Section} {key : Key} (h : key ∈ part.keys) :
    key.group = part := by
  cases part <;> cases key <;> first | rfl | simp [keys] at h

end Section

/-- A place of a settings file that a merge looks at: a section as a whole, or a key in it. -/
inductive Slot where
  | whole (part : Section)
  | single (key : Key)
  deriving DecidableEq

namespace Slot

def name : Slot → String
  | .whole part => part.name
  | .single key => key.dotted

def kind : Slot → ValueKind
  | .whole _ => .table
  | .single key => key.kind

def within (part : Section) : List Slot :=
  .whole part :: part.keys.map .single

def all : List Slot :=
  Section.all.flatMap within

theorem mem_all (slot : Slot) : slot ∈ all := by
  cases slot with
  | whole part => cases part <;> decide
  | single key => cases key <;> decide

def key? : Slot → Option Key
  | .whole _ => none
  | .single key => some key

/-- What is asked for by a value at a slot. A table for a section is no request of its own. -/
def request? : Slot → Value → Option Request
  | .whole part, value => if value.kind = .table then none else some (.whole part value)
  | .single key, value => some (.setting key value)

end Slot

namespace Entries

inductive Holds (table : Entries) : Slot → Value → Prop
  | whole {part value} : (part.name, value) ∈ table → table.Holds (.whole part) value
  | single {key entries value} : (key.group.name, .table entries) ∈ table →
    (key.name, value) ∈ entries → table.Holds (.single key) value

def Offends (table : Entries) (slot : Slot) : Prop :=
  ∃ value, table.Holds slot value ∧ value.kind ≠ slot.kind

/-- No key occurs twice, neither in the table itself nor in a section. -/
structure Distinct (table : Entries) : Prop where
  names : (table.map Prod.fst).Nodup
  inside : ∀ (part : Section) (entries : Entries), (part.name, .table entries) ∈ table →
    (entries.map Prod.fst).Nodup

/-- Where no key occurs twice, the entries say what looking up a key gives. -/
theorem lookup_eq_some_iff_mem {entries : Entries} (h : (entries.map Prod.fst).Nodup)
    {name : String} {value : Value} :
    entries.lookup name = some value ↔ (name, value) ∈ entries := by
  induction entries with
  | nil => simp
  | cons entry entries ih =>
    obtain ⟨other, held⟩ := entry
    obtain ⟨hfresh, hrest⟩ := List.nodup_cons.mp h
    by_cases hname : name = other
    · subst hname
      have habsent : (name, value) ∉ entries := fun hmem =>
        hfresh (List.mem_map.mpr ⟨_, hmem, rfl⟩)
      simp [habsent, eq_comm]
    · have hdiffer : (name == other) = false := by simpa using hname
      rw [List.lookup_cons, hdiffer, ih hrest]
      simp [hname]

def value? (table : Entries) (key : Key) : Option Value :=
  match table.lookup key.group.name with
  | some (.table entries) => entries.lookup key.name
  | _ => none

def at? (table : Entries) : Slot → Option Value
  | .whole part => table.lookup part.name
  | .single key => table.value? key

theorem value?_eq_some_iff {table : Entries} {key : Key} {value : Value} :
    table.value? key = some value ↔
      ∃ entries, table.lookup key.group.name = some (.table entries) ∧
        entries.lookup key.name = some value := by
  rw [value?]
  cases table.lookup key.group.name with
  | none => simp
  | some held => cases held <;> simp

theorem Distinct.at?_eq_some_iff {table : Entries} (h : table.Distinct) {slot : Slot}
    {value : Value} : table.at? slot = some value ↔ table.Holds slot value := by
  cases slot with
  | whole part =>
    rw [at?, lookup_eq_some_iff_mem h.names]
    exact ⟨.whole, fun | .whole hmem => hmem⟩
  | single key =>
    rw [at?, value?_eq_some_iff]
    constructor
    · rintro ⟨entries, hpart, hkey⟩
      have hpart := (lookup_eq_some_iff_mem h.names).mp hpart
      exact .single hpart ((lookup_eq_some_iff_mem (h.inside _ _ hpart)).mp hkey)
    · rintro (_ | ⟨hpart, hkey⟩)
      exact ⟨_, (lookup_eq_some_iff_mem h.names).mpr hpart,
        (lookup_eq_some_iff_mem (h.inside _ _ hpart)).mpr hkey⟩

def requestAt? (table : Entries) (slot : Slot) : Option Request :=
  (table.at? slot).bind slot.request?

/-- A request for a key comes from the section that the key belongs to. -/
theorem requestAt?_single {table : Entries} {part : Section} {key : Key} (h : key ∈ part.keys) :
    table.requestAt? (.single key) = (match table.lookup part.name with
      | some (.table entries) => entries.lookup key.name
      | _ => none).map (.setting key) := by
  rw [requestAt?, at?, value?, Section.group_of_mem_keys h, Option.map_eq_bind]
  rfl

theorem requestsIn_eq (table : Entries) (part : Section) :
    table.requestsIn part = (Slot.within part).filterMap table.requestAt? := by
  have hkeys : (part.keys.map Slot.single).filterMap table.requestAt? =
      part.keys.filterMap fun key => (match table.lookup part.name with
        | some (.table entries) => entries.lookup key.name
        | _ => none).map (.setting key) := by
    rw [List.filterMap_map]
    exact List.filterMap_congr fun key hkey => requestAt?_single hkey
  have hwhole : table.requestAt? (.whole part) =
      (table.lookup part.name).bind (Slot.request? (.whole part)) := rfl
  rw [requestsIn, Slot.within, List.filterMap_cons, hkeys, hwhole]
  cases table.lookup part.name with
  | none => simp
  | some value =>
    cases value with
    | table entries => rfl
    | moment moment => cases moment <;> simp [Slot.request?, Value.kind]
    | _ => simp [Slot.request?, Value.kind]

/-- A table asks for what it holds at the slots, in their order. -/
theorem requests_eq (table : Entries) :
    table.requests = Slot.all.filterMap table.requestAt? := by
  rw [requests, Slot.all, List.filterMap_flatMap]
  exact List.flatMap_congr fun part _ => table.requestsIn_eq part

/-- Whether a table holds a value of a wrong kind at a slot, so far as looking up goes. -/
def misfits (table : Entries) (slot : Slot) : Bool :=
  (table.requestAt? slot).any (!·.fits)

theorem misfits_eq_true_iff {table : Entries} {slot : Slot} :
    table.misfits slot = true ↔
      ∃ value, table.at? slot = some value ∧ value.kind ≠ slot.kind := by
  rw [misfits, requestAt?]
  cases table.at? slot with
  | none => simp
  | some value =>
    cases slot with
    | whole part =>
      by_cases hkind : value.kind = .table <;>
        simp [Slot.request?, Slot.kind, Request.fits, hkind]
    | single key => simp [Slot.request?, Slot.kind, Request.fits]

theorem Distinct.misfits_iff {table : Entries} (h : table.Distinct) {slot : Slot} :
    table.misfits slot = true ↔ table.Offends slot := by
  simp only [misfits_eq_true_iff, h.at?_eq_some_iff, Offends]

def passed (table : Entries) (parts : List Section) : List Slot :=
  (parts.flatMap Slot.within).takeWhile (!table.misfits ·)

/-- What is granted is what the table asks for at the slots before the first misfit. -/
theorem takeWhile_requests (table : Entries) :
    table.requests.takeWhile Request.fits =
      (table.passed Section.all).filterMap table.requestAt? := by
  rw [requests_eq, List.takeWhile_filterMap, passed, Slot.all]
  congr 2
  funext slot
  rw [misfits]
  cases table.requestAt? slot <;> simp

/-- What is refused is what the table asks for at the first slot that does not fit. -/
theorem find?_requests (table : Entries) :
    table.requests.find? (!·.fits) = (Slot.all.find? table.misfits).bind table.requestAt? := by
  rw [requests_eq, List.find?_filterMap]
  rfl

end Entries

namespace Layer

open Entries

def says? (layer : Layer) (key : Key) : Option Assignment :=
  (layer.table.value? key).map (⟨key, ·, layer.source⟩)

theorem key_of_says? {layer : Layer} {key : Key} {said : Assignment}
    (h : layer.says? key = some said) : said.key = key := by
  obtain ⟨value, -, rfl⟩ := Option.map_eq_some_iff.mp h
  rfl

/-- What is said about a key is said once, so it is the last thing said about it. -/
theorem lastTo_says (layer : Layer) {keys : List Key} {key : Key} (h : key ∈ keys) :
    lastTo key (keys.filterMap layer.says?) = layer.says? key := by
  cases hlast : lastTo key (keys.filterMap layer.says?) with
  | none =>
    cases hsaid : layer.says? key with
    | none => rfl
    | some said =>
      have hmem : said ∈ keys.filterMap layer.says? := List.mem_filterMap.mpr ⟨key, h, hsaid⟩
      exact absurd (key_of_says? hsaid) (lastTo_eq_none_iff.mp hlast said hmem)
  | some last =>
    obtain ⟨hmem, hkey⟩ := mem_of_lastTo hlast
    obtain ⟨other, -, hsaid⟩ := List.mem_filterMap.mp hmem
    have hother : other = key := (key_of_says? hsaid).symm.trans hkey
    rw [← hother, hsaid]

/-- What a layer assigns is what it says about the keys that a merge comes past. -/
theorem assignments_eq (layer : Layer) :
    layer.assignments =
      ((layer.table.passed Section.all).filterMap Slot.key?).filterMap layer.says? := by
  rw [assignments, takeWhile_requests, List.filterMap_filterMap, List.filterMap_filterMap]
  refine List.filterMap_congr fun slot _ => ?_
  cases slot with
  | whole part =>
    rw [requestAt?]
    cases layer.table.at? (.whole part) with
    | none => rfl
    | some value =>
      by_cases hkind : value.kind = .table <;>
        simp [Slot.request?, Slot.key?, Request.assignment?, hkind]
  | single key =>
    rw [requestAt?, at?, Slot.key?, Option.bind_some, says?]
    cases layer.table.value? key <;> rfl

theorem lastTo_assignments (layer : Layer) (key : Key) :
    lastTo key layer.assignments =
      if .single key ∈ layer.table.passed Section.all then layer.says? key else none := by
  have hkey : key ∈ (layer.table.passed Section.all).filterMap Slot.key? ↔
      .single key ∈ layer.table.passed Section.all := by
    rw [List.mem_filterMap]
    constructor
    · rintro ⟨slot, hslot, hkey⟩
      cases slot with
      | whole part => cases hkey
      | single other =>
        cases hkey
        exact hslot
    · exact fun hslot => ⟨_, hslot, rfl⟩
  rw [assignments_eq]
  split
  · next hpassed => exact layer.lastTo_says (hkey.mpr hpassed)
  · next hbehind =>
    refine lastTo_eq_none_iff.mpr fun assignment hmem hassigned => hbehind (hkey.mp ?_)
    obtain ⟨other, hother, hsaid⟩ := List.mem_filterMap.mp hmem
    rwa [← hassigned, key_of_says? hsaid]

end Layer

end Sexpr
