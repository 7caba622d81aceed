import Restyle.Json.Basic

set_option autoImplicit false

/-! # Reading records out of JSON values

A record is written as an object with its field names as keys, in any order, or as the array of its
fields in their order. Keys that are no field are passed over unread, whatever they hold; a field
may not be given twice. `fieldsOf names value` finds what a value gives for each field, and the
decoders below turn one such entry into a field.

Every array or object that is read costs one level of nesting. A decoder therefore gets the number
of levels that are left for the value in front of it. -/

namespace Restyle.Json

/-- How many arrays and objects may enclose each other in a text. -/
def maxNesting : Nat := 127

/-! ## The entries of a record -/

/-- How often an object gives a key. -/
def keyCount (key : String) (members : List (String × Json)) : Nat :=
  (members.filter fun member => member.1 == key).length

/-- What an object gives for each of the named fields, unless it gives one of them twice. -/
def memberFields (names : List String) (members : List (String × Json)) :
    Option (List (Option Json)) :=
  if names.all fun name => keyCount name members ≤ 1 then
    some (names.map fun name => members.lookup name)
  else none

/-- What an array gives for as many fields as there are names, unless it is longer. -/
def itemFields (names : List String) (items : List Json) : Option (List (Option Json)) :=
  if items.length ≤ names.length then
    some (items.map some ++ List.replicate (names.length - items.length) none)
  else none

/-- What a value gives for each of the named fields. -/
def fieldsOf (names : List String) : Json → Option (List (Option Json))
  | .object members => memberFields names members
  | .array items => itemFields names items
  | _ => none

/-- A field that has to be given. -/
def required {α : Type} (decode : Json → Option α) : Option Json → Option α
  | some value => decode value
  | none => none

/-- A field that holds `default` when it is left out. -/
def defaulting {α : Type} (default : α) (decode : Json → Option α) : Option Json → Option α
  | some value => decode value
  | none => some default

/-- A field that may be left out or `null`. -/
def nullable {α : Type} (decode : Json → Option α) : Option Json → Option (Option α)
  | none => some none
  | some .null => some none
  | some value => (decode value).map some

/-! ## Simple values -/

/-- The content of a string. -/
def string? : Json → Option String
  | .string s => some s
  | _ => none

/-- A truth value. -/
def bool? : Json → Option Bool
  | .bool b => some b
  | _ => none

/-- A list whose items are decoded with one level less. -/
def list? {α : Type} (item : Nat → Json → Option α) : Nat → Json → Option (List α)
  | levels + 1, .array items => items.mapM (item levels)
  | _, _ => none

/-- A list of strings. -/
def strings? : Nat → Json → Option (List String) := list? fun _ => string?

/-- A record whose fields are decoded with one level less. -/
def record? {α : Type} (names : List String) (fields : Nat → List (Option Json) → Option α) :
    Nat → Json → Option α
  | levels + 1, value => (fieldsOf names value).bind (fields levels)
  | 0, _ => none

/-- A record without defaults: if it is written as an array, every field has to be given. -/
def fullRecord? {α : Type} (names : List String) (fields : Nat → List (Option Json) → Option α)
    (levels : Nat) : Json → Option α
  | .array items =>
    if items.length = names.length then record? names fields levels (.array items) else none
  | value => record? names fields levels value

/-- The only member of an object. -/
def onlyMember? : Json → Option (String × Json)
  | .object [member] => some member
  | _ => none

/-- One of some alternatives without content, written as its name or as the object that gives
`null` for its name. -/
def choice? {α : Type} (ofName : String → Option α) : Nat → Json → Option α
  | _, .string name => ofName name
  | _ + 1, .object [(name, .null)] => ofName name
  | _, _ => none

end Restyle.Json
