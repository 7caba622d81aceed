set_option autoImplicit false

/-! # JSON values

A JSON value as it stands in a text: the members of an object keep their order and may repeat a
key, and a number is an exact decimal that is told apart from the integer of the same value. Some
literals are well formed and still stand for nothing:
a string with half of a surrogate pair, or a number beyond the double precision range. Such a
literal may stand where a value is skipped, so it is kept, as `unusable`, and refused only where a
value is used. -/

namespace Restyle

/-- The number `mantissa * 10 ^ exponent`, or the integer `mantissa` where there is no exponent. -/
structure Decimal where
  mantissa : Int
  exponent : Option Int
deriving DecidableEq, Repr

/-- A JSON value. -/
inductive Json where
  | null
  | bool (b : Bool)
  | number (value : Decimal)
  | string (s : String)
  | array (items : List Json)
  | object (members : List (String × Json))
  | unusable

namespace Json

/-- The integer `n`. -/
def ofNat (n : Nat) : Json := .number ⟨n, none⟩

/-! ## Values that are used

A value that is read whole must hold nothing `unusable`, and its arrays and objects must nest
at most as deep as the levels that are left. -/

mutual

/-- Whether a value can be read whole with `levels` levels of nesting left. -/
def usableWithin : Nat → Json → Bool
  | _, .null => true
  | _, .bool _ => true
  | _, .number _ => true
  | _, .string _ => true
  | 0, .array _ => false
  | levels + 1, .array items => allUsableWithin levels items
  | 0, .object _ => false
  | levels + 1, .object members => membersUsableWithin levels members
  | _, .unusable => false

/-- Whether every value of a list can be read whole. -/
def allUsableWithin : Nat → List Json → Bool
  | _, [] => true
  | levels, item :: rest => usableWithin levels item && allUsableWithin levels rest

/-- Whether the value of every member can be read whole. -/
def membersUsableWithin : Nat → List (String × Json) → Bool
  | _, [] => true
  | levels, (_, value) :: rest => usableWithin levels value && membersUsableWithin levels rest

end

/-! ## Values that are kept

A value that is kept as it stands forgets the order of the members of an object, and keeps the last
one of each key. -/

/-- Put a member among members in the order of their keys, in place of one with the same key. -/
def insertMember (key : String) (value : Json) : List (String × Json) → List (String × Json)
  | [] => [(key, value)]
  | (k, v) :: rest =>
    if key < k then (key, value) :: (k, v) :: rest
    else if key = k then (key, value) :: rest
    else (k, v) :: insertMember key value rest

mutual

/-- A value with the members of its objects in the order of their keys, one for each key. -/
def ordered : Json → Json
  | .array items => .array (orderedAll items)
  | .object members => .object (orderedMembers [] members)
  | value => value

/-- Every value of a list with its members in order. -/
def orderedAll : List Json → List Json
  | [] => []
  | item :: rest => ordered item :: orderedAll rest

/-- Members in the order of their keys, put among those that are already in order. -/
def orderedMembers (before : List (String × Json)) : List (String × Json) → List (String × Json)
  | [] => before
  | (key, value) :: rest => orderedMembers (insertMember key (ordered value) before) rest

end

end Json

end Restyle
