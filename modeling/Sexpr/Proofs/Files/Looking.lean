import Sexpr.Proofs.Files.Walk

/-!
Looking at what is at a path. A look that comes to nothing still has an answer. It fails for two
reasons only: the path, or a name met on the way along it, is too long, or a directory on the way is
not open to search. Of a path that can be followed neither is ever so.
-/

namespace Sexpr

namespace Path

end Path

namespace FileTree

variable {tree : FileTree} {current : Location} {path : Path} {kind : Place → Bool}
  {fault : OsFault}

/-- Why a look can fail: something is too long, or a directory is not open to search. -/
inductive Obstructs (tree : FileTree) : OsFault → Prop
  | length : Obstructs tree .nameTooLong
  | shut {location : Location} {denial : Denial}
      (hshut : tree.denial? location .search = some denial) : Obstructs tree (.denied denial)

theorem Obstructs.isAbsence_eq (h : tree.Obstructs fault) : fault.isAbsence = false := by
  cases h <;> rfl

/-- Following names to look fails where nothing is there, or where something obstructs it. -/
theorem walk_look_fault {links : Nat} {location : Location} {names : List String}
    (h : tree.walk .look links location names = .error fault) :
    fault.isAbsence = true ∨ tree.Obstructs fault := by
  replace h := leads_iff.mpr h
  generalize hfault : Except.error fault = result at h
  induction h with
  | skipped _ ih | here _ _ ih | above _ _ ih | directory _ _ _ _ ih | link _ _ _ _ ih =>
      exact ih hfault
  | shut _ hshut =>
      cases hfault
      exact .inr (.shut hshut)
  | slashed _ _ _ _ hslash => cases hslash.1
  | long =>
      cases hfault
      exact .inr .length
  | missing | blocked | exhausted =>
      cases hfault
      exact .inl rfl
  | arrived | free | file => cases hfault

theorem locate_look_fault (h : tree.locate .look current path = .error fault) :
    fault.isAbsence = true ∨ tree.Obstructs fault := by
  unfold locate at h
  split at h
  · cases h
    exact .inr .length
  · exact walk_look_fault h

/-- A look fails just where something obstructs it. -/
theorem leadsTo_eq_error_iff : tree.leadsTo current path kind = .error fault ↔
    tree.locate .look current path = .error fault ∧ tree.Obstructs fault := by
  unfold leadsTo
  cases hlocate : tree.locate .look current path with
  | ok place => simp
  | error cause =>
      obtain habsent | hobstructs := locate_look_fault hlocate
      · simp only [habsent, reduceIte]
        constructor
        · nofun
        · rintro ⟨hcause, hobstructs⟩
          cases hcause
          rw [hobstructs.isAbsence_eq] at habsent
          cases habsent
      · simp only [hobstructs.isAbsence_eq, Bool.false_eq_true, if_false]
        constructor
        · rintro ⟨⟩
          exact ⟨rfl, hobstructs⟩
        · rintro ⟨⟨⟩, -⟩
          rfl

end FileTree

end Sexpr
