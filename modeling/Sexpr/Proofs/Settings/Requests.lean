import Sexpr.Settings.Merge

/-!
What the table of a settings file asks for. A merge goes through the requests of a table in one
order, whatever the order of its entries, and grants them up to the first one that does not fit.
-/

namespace Sexpr

namespace Settings

/-- A key takes the values of its kind, and nothing else changes with it. -/
theorem get_set? (settings : Settings) {key : Key} {value : Value} (h : value.kind = key.kind) :
    ∃ changed, settings.set? key value = some changed ∧
      ∀ other, changed.get other = if other = key then value else settings.get other := by
  cases value with
  | text _ | int _ | flag _ =>
    cases key <;> cases h <;> refine ⟨_, rfl, fun other => ?_⟩ <;> cases other <;> rfl
  | float _ | array _ | table _ => cases key <;> cases h
  | moment moment => cases moment <;> cases key <;> cases h

theorem set?_eq_none (settings : Settings) {key : Key} {value : Value}
    (h : value.kind ≠ key.kind) : settings.set? key value = none := by
  cases value with
  | text _ | int _ | flag _ => cases key <;> first | rfl | exact absurd rfl h
  | float _ | array _ | table _ | moment _ => cases key <;> rfl

theorem get_kind (settings : Settings) (key : Key) : (settings.get key).kind = key.kind := by
  cases key <;> rfl

end Settings

/-- One thing that a table asks for: a value for a key, or for a whole section a value that is no
table. -/
inductive Request where
  | setting (key : Key) (value : Value)
  | whole (part : Section) (value : Value)

namespace Request

def fits : Request → Bool
  | .setting key value => value.kind = key.kind
  | .whole _ _ => false

def fault (source : String) : Request → WrongKind
  | .setting key value => ⟨key.dotted, source, key.kind, value⟩
  | .whole part value => ⟨part.name, source, .table, value⟩

end Request

namespace Entries

def requestsFor (entries : Entries) (keys : List Key) : List Request :=
  keys.filterMap fun key => (entries.lookup key.name).map (.setting key)

def requestsIn (table : Entries) (part : Section) : List Request :=
  match table.lookup part.name with
  | none => []
  | some (.table entries) => requestsFor entries part.keys
  | some value => [.whole part value]

def requests (table : Entries) : List Request :=
  Section.all.flatMap table.requestsIn

end Entries

namespace Profile

def grant (source : String) (profile : Profile) : Request → Profile
  | .setting key value => (profile.assign? key value source).getD profile
  | .whole _ _ => profile

/-- Grants requests up to the first one that does not fit. -/
def grantAll (source : String) : List Request → Profile → Profile × Option WrongKind
  | [], profile => (profile, none)
  | request :: requests, profile =>
    if request.fits then grantAll source requests (profile.grant source request)
    else (profile, some (request.fault source))

variable (source : String)

theorem grantAll_append (front back : List Request) (profile : Profile) :
    grantAll source (front ++ back) profile =
      match grantAll source front profile with
      | (granted, none) => grantAll source back granted
      | (granted, some fault) => (granted, some fault) := by
  induction front generalizing profile with
  | nil => rfl
  | cons request front ih =>
    rw [List.cons_append, grantAll, grantAll]
    split
    · exact ih _
    · rfl

/-- The requests in front of the first that does not fit are granted, and that one is reported. -/
theorem grantAll_eq (requests : List Request) (profile : Profile) :
    grantAll source requests profile =
      ((requests.takeWhile Request.fits).foldl (grant source) profile,
        (requests.find? (!·.fits)).map (·.fault source)) := by
  induction requests generalizing profile with
  | nil => rfl
  | cons request requests ih =>
    rw [grantAll]
    cases hfits : request.fits with
    | false => simp [hfits]
    | true => simp [hfits, ih]

theorem assign?_eq (profile : Profile) (key : Key) (value : Value) :
    profile.assign? key value source =
      if (Request.setting key value).fits then some (profile.grant source (.setting key value))
      else none := by
  by_cases hkind : value.kind = key.kind
  · obtain ⟨changed, hset, -⟩ := profile.settings.get_set? hkind
    simp [Request.fits, hkind, grant, assign?, hset]
  · simp [Request.fits, hkind, assign?, profile.settings.set?_eq_none hkind]

theorem assignKeys_eq (entries : Entries) (keys : List Key) (profile : Profile) :
    profile.assignKeys source entries keys =
      grantAll source (entries.requestsFor keys) profile := by
  induction keys generalizing profile with
  | nil => rfl
  | cons key keys ih =>
    rw [assignKeys, Entries.requestsFor]
    cases hvalue : entries.lookup key.name with
    | none =>
      rw [List.filterMap_cons_none (by rw [hvalue]; rfl)]
      exact ih profile
    | some value =>
      rw [List.filterMap_cons_some (by rw [hvalue]; rfl), grantAll]
      simp only [assign?_eq]
      cases (Request.setting key value).fits with
      | true => exact ih _
      | false => rfl

/-- What a merge does to a profile, apart from its warnings. -/
theorem mergeSections_eq (table : Entries) (parts : List Section) (profile : Profile) :
    ((profile.mergeSections source table parts).profile,
      (profile.mergeSections source table parts).fault) =
        grantAll source (parts.flatMap table.requestsIn) profile := by
  induction parts generalizing profile with
  | nil => rfl
  | cons part parts ih =>
    rw [mergeSections, List.flatMap_cons, grantAll_append, Entries.requestsIn]
    cases table.lookup part.name with
    | none => exact ih profile
    | some value =>
      cases value with
      | table entries =>
        simp only [assignKeys_eq]
        cases grantAll source (Entries.requestsFor entries part.keys) profile with
        | mk granted fault =>
          cases fault with
          | none => exact ih granted
          | some fault => rfl
      | _ => rfl

/-- A merge grants what a table asks for up to the first request that does not fit. -/
theorem merge_profile (table : Entries) (profile : Profile) :
    (profile.merge source table).profile =
      (table.requests.takeWhile Request.fits).foldl (grant source) profile := by
  have hmerge := mergeSections_eq source table Section.all profile
  exact (congrArg Prod.fst hmerge).trans (congrArg Prod.fst (grantAll_eq source _ profile))

/-- What a merge complains about is the first request that does not fit. -/
theorem merge_fault (table : Entries) (profile : Profile) :
    (profile.merge source table).fault =
      (table.requests.find? (!·.fits)).map (·.fault source) := by
  have hmerge := mergeSections_eq source table Section.all profile
  exact (congrArg Prod.snd hmerge).trans (congrArg Prod.snd (grantAll_eq source _ profile))

end Profile

end Sexpr
