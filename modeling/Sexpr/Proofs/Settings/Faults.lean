import Sexpr.Proofs.Settings.Loading
import Sexpr.Proofs.Text.Encoding

/-!
Settings that do not load. A settings file that cannot be used is reported, but for the files here:
their bytes are no text at all, or the document or the value to be reported is beyond a limit. Which
files these are is said of their bytes alone; loading breaks down just where it comes to such a
file.
-/

namespace Sexpr

def Request.value : Request → Value
  | .setting _ value | .whole _ value => value

theorem Request.fault_value (source : String) (request : Request) :
    (request.fault source).value = request.value := by
  cases request <;> rfl

/-- The bytes of a settings file that no report is made of: they encode no text; or reading the
document, or showing the first value in it that does not fit, meets a limit. -/
inductive Overtaxes (limits : Limits) (bytes : List UInt8) : Prop
  | noText (hbytes : ∀ text : List Char, bytes ≠ text.flatMap String.utf8EncodeChar)
  | beyondLimit {text fault} (hbytes : bytes = text.flatMap String.utf8EncodeChar)
      (hfault : Toml.parse limits text = .error fault)
      (hlimit : (∃ digits, fault.cause = .longInteger digits) ∨ fault.cause = .deepNesting)
  | unshown {text table request} (hbytes : bytes = text.flatMap String.utf8EncodeChar)
      (htable : Toml.parse limits text = .ok table)
      (hfirst : (Entries.requests table).find? (!·.fits) = some request)
      (hlimit : request.value.obstacle? limits ≠ none)

theorem Toml.Cause.breakdown?_eq_none_iff (cause : Toml.Cause) :
    cause.breakdown? = none ↔
      ¬((∃ digits, cause = .longInteger digits) ∨ cause = .deepNesting) := by
  cases cause <;> simp [Toml.Cause.breakdown?]

section Bytes

open Text.Utf8 (decode decode_eq_ok_iff encoding_injective)

variable {limits : Limits} {bytes : List UInt8} {text : List Char}

theorem overtaxes_of_error {offset : Nat} (h : decode bytes = .error offset) :
    Overtaxes limits bytes := by
  apply Overtaxes.noText
  rintro text rfl
  rw [decode_eq_ok_iff.mpr rfl] at h
  cases h

theorem overtaxes_iff_of_fault (h : decode bytes = .ok text) {fault : Toml.Fault}
    (hfault : Toml.parse limits text = .error fault) :
    Overtaxes limits bytes ↔ fault.cause.breakdown? ≠ none := by
  have hbytes := decode_eq_ok_iff.mp h
  rw [Ne, Toml.Cause.breakdown?_eq_none_iff, not_not]
  constructor
  · intro hover
    cases hover with
    | noText hnone => exact absurd hbytes (hnone text)
    | beyondLimit hother hparse hlimit =>
        obtain rfl := encoding_injective (hbytes.symm.trans hother)
        rw [hfault] at hparse
        cases hparse
        exact hlimit
    | unshown hother hparse =>
        obtain rfl := encoding_injective (hbytes.symm.trans hother)
        rw [hfault] at hparse
        cases hparse
  · exact .beyondLimit hbytes hfault

theorem overtaxes_iff_of_table (h : decode bytes = .ok text) {table : Toml.Table}
    (htable : Toml.parse limits text = .ok table) :
    Overtaxes limits bytes ↔ ∃ request, (Entries.requests table).find? (!·.fits) = some request ∧
      request.value.obstacle? limits ≠ none := by
  have hbytes := decode_eq_ok_iff.mp h
  constructor
  · intro hover
    cases hover with
    | noText hnone => exact absurd hbytes (hnone text)
    | beyondLimit hother hparse =>
        obtain rfl := encoding_injective (hbytes.symm.trans hother)
        rw [htable] at hparse
        cases hparse
    | unshown hother hparse hfirst hlimit =>
        obtain rfl := encoding_injective (hbytes.symm.trans hother)
        rw [htable] at hparse
        cases hparse
        exact ⟨_, hfirst, hlimit⟩
  · rintro ⟨request, hfirst, hlimit⟩
    exact .unshown hbytes htable hfirst hlimit

end Bytes

namespace LoadFault

def IsBroken (fault : LoadFault) : Prop :=
  ∃ cause, fault = .broken cause

theorem isBroken_ofToml (path : Path) (text : List Char) (fault : Toml.Fault) :
    (ofToml path text fault).IsBroken ↔ fault.cause.breakdown? ≠ none := by
  rw [ofToml]
  cases fault.cause.breakdown? with
  | none => simp [IsBroken]
  | some cause => simp [IsBroken]

theorem isBroken_ofWrongKind (limits : Limits) (fault : WrongKind) :
    (ofWrongKind limits fault).IsBroken ↔ fault.value.obstacle? limits ≠ none := by
  rw [ofWrongKind]
  cases fault.value.obstacle? limits with
  | none => simp [IsBroken]
  | some cause => simp [IsBroken]

end LoadFault

namespace Loading

def IsBroken (loading : Loading) : Prop :=
  ∃ cause, loading.result = .error (.broken cause)

theorem isBroken_iff {loading : Loading} {fault : LoadFault} (h : loading.result = .error fault) :
    loading.IsBroken ↔ fault.IsBroken := by
  rw [IsBroken, h, LoadFault.IsBroken]
  simp

theorem not_isBroken_of_ok {loading : Loading} {profile : Profile}
    (h : loading.result = .ok profile) : ¬loading.IsBroken := by
  rintro ⟨cause, hbroken⟩
  rw [h] at hbroken
  cases hbroken

/-- What is loaded is loaded well, or its fault is reported, or it breaks down. -/
theorem not_isBroken_iff (loading : Loading) :
    ¬loading.IsBroken ↔ (∃ profile, loading.result = .ok profile) ∨
      ∃ fault, loading.result = .error (.config fault) := by
  rw [IsBroken]
  cases loading.result with
  | ok profile => simp
  | error fault => cases fault <;> simp

theorem andThen_isBroken_iff {first : Loading} {next : Profile → Loading} :
    (first.andThen next).IsBroken ↔
      first.IsBroken ∨ ∃ between, first.result = .ok between ∧ (next between).IsBroken := by
  rw [andThen, IsBroken, IsBroken]
  cases hfirst : first.result with
  | error fault => simp [hfirst]
  | ok between => simp [IsBroken]

section Layers

variable (limits : Limits) (files : FileTree) (current : Location)

/-- A settings file that loading breaks down at. It is also broken where the file could not even be
looked for. -/
def BreaksAt : (found : Except Breakdown (Option Path)) → Prop
  | .error _ => True
  | .ok none => False
  | .ok (some path) => ∃ bytes, files.read current path = .ok bytes ∧ Overtaxes limits bytes

variable {limits files current} {path : Path}

theorem layer_of_error {fault : LoadFault} (h : readTable limits files current path = .error fault)
    (profile : Profile) : (layer limits files current profile path).result = .error fault := by
  rw [layer, h]

/-- A table is laid over the profile, unless something in it does not fit. -/
theorem layer_of_table {table : Entries} (h : readTable limits files current path = .ok table)
    (profile : Profile) :
    (layer limits files current profile path).result =
      ((table.requests.find? (!·.fits)).map (·.fault path.render)).elim
        (.ok (profile.merge path.render table).profile) (.error ∘ .ofWrongKind limits) := by
  have hmerge := Profile.merge_fault path.render table profile
  rw [← hmerge, layer, h]
  simp only
  cases (profile.merge path.render table).fault <;> rfl

theorem layer_isBroken_iff (profile : Profile) :
    (layer limits files current profile path).IsBroken ↔
      ∃ bytes, files.read current path = .ok bytes ∧ Overtaxes limits bytes := by
  -- A case for each stage that can fail: reading, decoding, parsing and merging.
  cases hread : files.read current path with
  | error cause =>
      have htable : readTable limits files current path =
          .error (.config (.unreadable path cause)) := by
        rw [readTable, hread]
      rw [isBroken_iff (layer_of_error htable profile)]
      simp [LoadFault.IsBroken]
  | ok bytes =>
      simp only [Except.ok.injEq, exists_eq_left']
      cases hdecode : Text.Utf8.decode bytes with
      | error offset =>
          have htable : readTable limits files current path =
              .error (.broken (.noText offset)) := by
            simp only [readTable, hread, hdecode]
          exact iff_of_true ⟨_, layer_of_error htable profile⟩ (overtaxes_of_error hdecode)
      | ok text =>
          cases hparse : Toml.parse limits text with
          | error fault =>
              have htable : readTable limits files current path =
                  .error (.ofToml path text fault) := by
                simp only [readTable, hread, hdecode, hparse]
                rfl
              rw [isBroken_iff (layer_of_error htable profile), LoadFault.isBroken_ofToml,
                overtaxes_iff_of_fault hdecode hparse]
          | ok table =>
              have htable : readTable limits files current path = .ok table := by
                simp only [readTable, hread, hdecode, hparse]
                rfl
              have hresult := layer_of_table htable profile
              rw [overtaxes_iff_of_table hdecode hparse]
              cases hfirst : (Entries.requests table).find? (!·.fits) with
              | none =>
                  rw [hfirst] at hresult
                  exact iff_of_false (not_isBroken_of_ok hresult) (by simp)
              | some request =>
                  rw [hfirst] at hresult
                  rw [isBroken_iff hresult, LoadFault.isBroken_ofWrongKind, Request.fault_value]
                  simp

theorem layerFound_isBroken_iff (found : Except Breakdown (Option Path)) (profile : Profile) :
    (layerFound limits files current found profile).IsBroken ↔
      BreaksAt limits files current found := by
  match found with
  | .error cause => exact iff_of_true ⟨cause, rfl⟩ trivial
  | .ok none => exact iff_of_false (not_isBroken_of_ok rfl) not_false
  | .ok (some path) => exact layer_isBroken_iff profile

end Layers

end Loading

namespace Host

/-- Loading comes to a settings file that it breaks down at. The project's file is not looked at
before the user's one has loaded. -/
def Breaks (host : Host) (start : Path) : Prop :=
  let breaksAt := Loading.BreaksAt host.platform.limits host.files host.current
  breaksAt host.userSettings ∨
    (∃ user, host.userLayer = .ok user ∧ ∀ layer ∈ user.toList, layer.Fits) ∧
      breaksAt (host.projectSettings start)

theorem load_isBroken_iff (host : Host) (start : Path) :
    (host.load start).IsBroken ↔ host.Breaks start := by
  rw [load, Loading.andThen_isBroken_iff, Loading.layerFound_isBroken_iff, Breaks]
  apply or_congr Iff.rfl
  constructor
  · rintro ⟨between, hbetween, hbroken⟩
    obtain ⟨user, huser, hfits, -⟩ := (Loading.layerFound_ok_iff _ _ _ _ _ _).mp hbetween
    exact ⟨⟨user, huser, hfits⟩, (Loading.layerFound_isBroken_iff _ between).mp hbroken⟩
  · rintro ⟨⟨user, huser, hfits⟩, hbreaks⟩
    refine ⟨_, (Loading.layerFound_ok_iff _ _ _ _ _ _).mpr ⟨user, huser, hfits, rfl⟩, ?_⟩
    exact (Loading.layerFound_isBroken_iff _ _).mpr hbreaks

end Host

end Sexpr
