import Sexpr.Proofs.Settings.Requests

/-!
Layers of settings. Every table that is laid over a profile assigns some keys, also one that a merge
gives up on. Of all assignments the last one to a key is the one that holds, for the value and for
its origin alike.
-/

namespace Sexpr

/-- A table with the file that it comes from. -/
structure Layer where
  source : String
  table : Entries

structure Assignment where
  key : Key
  value : Value
  source : String

def Request.assignment? (source : String) : Request → Option Assignment
  | .setting key value => some ⟨key, value, source⟩
  | .whole _ _ => none

namespace Layer

/-- What a layer assigns: whatever its table asks for, up to the first request that does not fit. -/
def assignments (layer : Layer) : List Assignment :=
  (layer.table.requests.takeWhile Request.fits).filterMap (Request.assignment? layer.source)

end Layer

def lastTo (key : Key) (log : List Assignment) : Option Assignment :=
  log.reverse.find? (·.key = key)

theorem lastTo_append (key : Key) (front back : List Assignment) :
    lastTo key (front ++ back) = (lastTo key back).or (lastTo key front) := by
  rw [lastTo, List.reverse_append, List.find?_append]
  rfl

theorem lastTo_eq_none_iff {key : Key} {log : List Assignment} :
    lastTo key log = none ↔ ∀ assignment ∈ log, assignment.key ≠ key := by
  simp [lastTo]

theorem mem_of_lastTo {key : Key} {log : List Assignment} {last : Assignment}
    (h : lastTo key log = some last) : last ∈ log ∧ last.key = key := by
  have hmem := List.mem_reverse.mp (List.mem_of_find?_eq_some h)
  have hkey := List.find?_some h
  exact ⟨hmem, of_decide_eq_true hkey⟩

namespace Profile

/-- Lays a layer over a profile, as far as the merge comes. -/
def lay (profile : Profile) (layer : Layer) : Profile :=
  (profile.merge layer.source layer.table).profile

/-- What is left of a profile under some assignments: a key that one of them is to has the value and
the origin of the last one. -/
def Shows (before after : Profile) (log : List Assignment) : Prop :=
  ∀ key,
    after.settings.get key =
      ((lastTo key log).map Assignment.value).getD (before.settings.get key) ∧
    after.origin key = ((lastTo key log).map Assignment.source).or (before.origin key)

theorem Shows.refl (profile : Profile) : profile.Shows profile [] :=
  fun _ => ⟨rfl, rfl⟩

theorem Shows.trans {before between after : Profile} {front back : List Assignment}
    (hfront : before.Shows between front) (hback : between.Shows after back) :
    before.Shows after (front ++ back) := by
  intro key
  obtain ⟨hvalue, horigin⟩ := hfront key
  obtain ⟨hvalue', horigin'⟩ := hback key
  rw [hvalue', horigin', hvalue, horigin, lastTo_append]
  cases lastTo key back with
  | none => exact ⟨rfl, rfl⟩
  | some assignment => exact ⟨rfl, rfl⟩

/-- A request that fits is an assignment. -/
theorem grant_shows (source : String) (profile : Profile) {request : Request}
    (hfits : request.fits = true) :
    profile.Shows (profile.grant source request) (request.assignment? source).toList := by
  cases request with
  | whole part value => cases hfits
  | setting key value =>
    have hkind : value.kind = key.kind := of_decide_eq_true hfits
    obtain ⟨changed, hset, hget⟩ := profile.settings.get_set? hkind
    intro other
    have hgrant : profile.grant source (.setting key value) =
        ⟨changed, fun other => if other = key then some source else profile.origin other⟩ := by
      rw [grant, assign?, hset]
      rfl
    by_cases hother : other = key
    · simp [hgrant, hget, hother, Request.assignment?, lastTo]
    · simp [hgrant, hget, hother, Ne.symm hother, Request.assignment?, lastTo]

theorem foldl_grant_shows (source : String) (requests : List Request) (profile : Profile)
    (hfits : ∀ request ∈ requests, request.fits = true) :
    profile.Shows (requests.foldl (grant source) profile)
      (requests.filterMap (Request.assignment? source)) := by
  induction requests generalizing profile with
  | nil => exact .refl profile
  | cons request requests ih =>
    have hlog : (request :: requests).filterMap (Request.assignment? source) =
        (request.assignment? source).toList ++
          requests.filterMap (Request.assignment? source) := by
      cases request <;> rfl
    rw [hlog, List.foldl_cons]
    exact (grant_shows source profile (hfits request List.mem_cons_self)).trans
      (ih _ fun other hother => hfits other (List.mem_cons_of_mem _ hother))

theorem lay_shows (layer : Layer) (profile : Profile) :
    profile.Shows (profile.lay layer) layer.assignments := by
  rw [lay, merge_profile]
  exact foldl_grant_shows layer.source _ profile <|
    List.all_eq_true.mp List.all_takeWhile

theorem foldl_lay_shows (layers : List Layer) (profile : Profile) :
    profile.Shows (layers.foldl lay profile) (layers.flatMap Layer.assignments) := by
  induction layers generalizing profile with
  | nil => exact .refl profile
  | cons layer layers ih => exact (lay_shows layer profile).trans (ih _)

theorem originOf_dotted (profile : Profile) (key : Key) :
    profile.originOf key.dotted = (profile.origin key).getD "default" := by
  cases key <;> rfl

/-- Only keys of settings have origins. -/
theorem mem_origins_iff {profile : Profile} {name source : String} :
    (name, source) ∈ profile.origins ↔
      ∃ key : Key, key.dotted = name ∧ profile.origin key = some source := by
  have hall : ∀ key : Key, key ∈ [Section.defaults, .display, .parser].flatMap Section.keys := by
    intro key
    cases key <;> decide
  rw [origins, List.mem_filterMap]
  constructor
  · rintro ⟨key, -, horigin⟩
    obtain ⟨found, hfound, hentry⟩ := Option.map_eq_some_iff.mp horigin
    cases hentry
    exact ⟨key, rfl, hfound⟩
  · rintro ⟨key, rfl, horigin⟩
    exact ⟨key, hall key, by rw [horigin]; rfl⟩

/-- A profile that holds what was assigned last to each key, and for the keys that nothing was
assigned to what holds without any file. -/
structure Reflects (profile : Profile) (last : Key → Option Assignment) : Prop where
  kind : ∀ key, (profile.settings.get key).kind = key.kind
  value : ∀ key, profile.settings.get key =
    ((last key).map Assignment.value).getD (Settings.default.get key)
  originOf : ∀ key : Key, profile.originOf key.dotted =
    ((last key).map Assignment.source).getD "default"
  origins : ∀ name source, (name, source) ∈ profile.origins ↔
    ∃ key : Key, key.dotted = name ∧ (last key).map Assignment.source = some source

theorem Shows.reflects {profile : Profile} {log : List Assignment}
    (h : default.Shows profile log) : profile.Reflects (lastTo · log) := by
  have horigin : ∀ key, profile.origin key = (lastTo key log).map Assignment.source := by
    intro key
    rw [(h key).2]
    exact Option.or_none
  refine ⟨fun key => profile.settings.get_kind key, fun key => (h key).1, fun key => ?_,
    fun name source => ?_⟩
  · rw [originOf_dotted, horigin]
  · simp only [mem_origins_iff, horigin]

end Profile

end Sexpr
