import Sexpr.Toml.Fault
import Sexpr.Value

/-!
Tables under construction: entries can be reached and added through key paths. Names on the way
that are not there yet become tables.
-/

namespace Sexpr.Toml

/-- The entries of a table in the order in which they were written. -/
abbrev Table : Type := List (String × Value)

namespace Table

/-- Gives a name that is there another value, in its place. -/
def replace (table : Table) (name : String) (value : Value) : Table :=
  table.map fun (other, old) => (other, if other = name then value else old)

/-- Changes the table at the end of a path, or fails where a name on the way is no table. Through
an array of tables the path leads into its last one, where `through` allows that. -/
def changeAt (through : Bool) (change : Table → Option Table) :
    (path : KeyPath) → Table → Option Table
  | [], table => change table
  | name :: path, table =>
    match table.lookup name with
    | none => do
      let inner ← changeAt through change path []
      return table ++ [(name, .table inner)]
    | some (.table entries) => do
      let inner ← changeAt through change path entries
      return table.replace name (.table inner)
    | some (.array items) =>
      match through, items.getLast? with
      | true, some (.table entries) => do
        let inner ← changeAt through change path entries
        return table.replace name (.array (items.dropLast ++ [.table inner]))
      | _, _ => none
    | some _ => none

def add (name : String) (value : Value) (table : Table) : Option Table :=
  match table.lookup name with
  | none => some (table ++ [(name, value)])
  | some _ => none

/-- Adds an empty table to an array of tables, which starts with it if there is none. -/
def addItem (name : String) (table : Table) : Option Table :=
  match table.lookup name with
  | none => some (table ++ [(name, .array [.table []])])
  | some (.array items) => some (table.replace name (.array (items ++ [.table []])))
  | some _ => none

end Table

/-- Whether a value is an array or a table, which once written stays as it is. -/
def isCompound : Value → Bool
  | .array _ | .table _ => true
  | _ => false

def isWithin (finished : List KeyPath) (path : KeyPath) : Bool :=
  finished.any (·.isPrefixOf path)

end Sexpr.Toml
