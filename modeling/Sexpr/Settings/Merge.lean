import Sexpr.Settings.Basic

/-!
Merging: the table of a settings file is laid over a profile. Keys that no section has are warned
about and otherwise ignored. A value of the wrong kind ends the merge; what was assigned before it
stays.
-/

namespace Sexpr

/-- A key of a settings file that means nothing, by its dotted name. -/
structure UnknownKey where
  key : String
  source : String
  deriving DecidableEq

def UnknownKey.message (unknown : UnknownKey) : String :=
  "Unknown config key '" ++ unknown.key ++ "' in " ++ unknown.source

/-- A value of the wrong kind. The key is that of a section or a dotted one. -/
structure WrongKind where
  key : String
  source : String
  expected : ValueKind
  value : Value

def WrongKind.message (fault : WrongKind) : String :=
  "Invalid value for '" ++ fault.key ++ "' in " ++ fault.source ++ ": expected " ++
    fault.expected.name ++ ", got " ++ fault.value.kind.name

/-- What a merge leaves behind: the profile, what it warns about, and the value that ended it. -/
structure Merge where
  profile : Profile
  unknown : List UnknownKey
  fault : Option WrongKind

/-- The entries of a table, in the order in which they were written. -/
abbrev Entries : Type := List (String × Value)

namespace Profile

/-- Assigns the given keys of a section from its entries, up to the first value of a wrong kind. -/
def assignKeys (source : String) (entries : Entries) :
    (keys : List Key) → Profile → Profile × Option WrongKind
  | [], profile => (profile, none)
  | key :: keys, profile =>
    match entries.lookup key.name with
    | none => profile.assignKeys source entries keys
    | some value =>
      match profile.assign? key value source with
      | some assigned => assigned.assignKeys source entries keys
      | none => (profile, some ⟨key.dotted, source, key.kind, value⟩)

def unknownIn (source : String) (part : Section) (entries : Entries) : List UnknownKey :=
  (entries.filter fun (name, _) => !(part.keys.map Key.name).contains name).map
    fun (name, _) => ⟨part.name ++ "." ++ name, source⟩

def mergeSections (source : String) (table : Entries) : (parts : List Section) → Profile → Merge
  | [], profile => ⟨profile, [], none⟩
  | part :: parts, profile =>
    match table.lookup part.name with
    | none => profile.mergeSections source table parts
    | some (.table entries) =>
      let unknown := unknownIn source part entries
      match profile.assignKeys source entries part.keys with
      | (assigned, some fault) => ⟨assigned, unknown, some fault⟩
      | (assigned, none) =>
        let rest := assigned.mergeSections source table parts
        { rest with unknown := unknown ++ rest.unknown }
    | some value => ⟨profile, [], some ⟨part.name, source, .table, value⟩⟩

def unknownSections (source : String) (table : Entries) : List UnknownKey :=
  (table.filter fun (name, _) => (Section.ofName? name).isNone).map fun (name, _) =>
    ⟨name, source⟩

def merge (profile : Profile) (source : String) (table : Entries) : Merge :=
  let merged := profile.mergeSections source table Section.all
  { merged with unknown := unknownSections source table ++ merged.unknown }

end Profile

end Sexpr
