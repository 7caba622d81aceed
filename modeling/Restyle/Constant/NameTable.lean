import Restyle.Constant.UpperSnake
import Restyle.ConversionError
import Std.Data.ExtTreeMap

set_option autoImplicit false

/-! # The names of constants

A name table gives the constants of a stylesheet their names, by key. It is either supplied by the
caller or derived from the declarations; then two keys must not lead to the same name. -/

namespace Restyle

/-- The names of constants by their keys. -/
abbrev NameTable := Std.ExtTreeMap String String

/-- A table under construction, with the key that owns each name. -/
structure Naming where
  table : NameTable
  owners : Std.ExtTreeMap String String

namespace Naming

/-- Nothing is named. -/
def empty : Naming := ⟨∅, ∅⟩

/-- Name a key, unless it has been named already. -/
def add (naming : Naming) (key : String) : Except ConversionError Naming :=
  if naming.table.contains key then .ok naming
  else
    match naming.owners[upperSnake key]? with
    | some first => .error (.nameCollision first key (upperSnake key))
    | none =>
      .ok ⟨naming.table.insert key (upperSnake key), naming.owners.insert (upperSnake key) key⟩

/-- Name the keys of all declarations, in their order. -/
def addAll (naming : Naming) : List Constant → Except ConversionError Naming
  | [] => .ok naming
  | decl :: rest =>
    match naming.add decl.key with
    | .ok naming => naming.addAll rest
    | .error e => .error e

end Naming

/-- The table that is derived from declarations. -/
def NameTable.ofConstants (decls : List Constant) : Except ConversionError NameTable :=
  (Naming.empty.addAll decls).map Naming.table

end Restyle
