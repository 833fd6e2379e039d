import Crosstab.Catalog.Builtin
import Crosstab.Text.Case

/-!
The names of tables and columns in the store. Configured names come first, then the built-in ones,
and all others follow one rule, which leaves nothing but small letters and digits.
-/

namespace Crosstab

open Crosstab.Text

def isPlainChar (c : Char) : Bool := ('a' ≤ c && c ≤ 'z') || ('0' ≤ c && c ≤ '9')

/-- A name folded to lower case, without everything but ASCII letters and digits. -/
def plainName (name : String) : String :=
  String.ofList ((fold name).toList.filter isPlainChar)

structure Naming where
  /-- The schema in front of every table. -/
  schema : Option String := none
  /-- The table of an entity. -/
  tables : List (String × String) := []
  /-- The column of a field of an entity. -/
  fields : List ((String × String) × String) := []

namespace Naming

def table (names : Naming) (entity : String) : String :=
  ((names.tables.lookup entity).or (Builtin.tables.lookup entity)).getD (plainName entity)

def column (names : Naming) (entity field : String) : String :=
  ((names.fields.lookup (entity, field)).or (Builtin.fields.lookup (entity, field))).getD
    (plainName field)

end Naming

end Crosstab
