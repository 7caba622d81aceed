import Restyle.Json.Token

set_option autoImplicit false

/-! # Reading JSON texts

The tokens of a text are read from left to right with the arrays and objects that are still open on
a stack. Nothing limits how deep they nest: a limit belongs to the one who uses the value. -/

namespace Restyle.Json

/-- What may come next while a value is being read. -/
inductive Expected where
  /-- A value. -/
  | value
  /-- A value, or the end of the array that has just been opened. -/
  | firstItem
  /-- A key, or the end of the object that has just been opened. -/
  | firstKey
  /-- A key. -/
  | key
  /-- The colon behind a key. -/
  | colon
  /-- A comma, or the end of the innermost open array or object. -/
  | next
deriving DecidableEq

/-- An open array or object with what has been read of it, last first. The key of an object is the
one whose value is being read. A key is `none` when it has half of a surrogate pair. -/
inductive Frame where
  | array (items : List Json)
  | object (members : List (Option String × Json)) (key : Option String)

/-- How far a text has been read. -/
inductive Reading where
  | within (frames : List Frame) (expected : Expected)
  | done (value : Json)

/-- The value of a string token. -/
def ofContent : Option String → Json
  | some s => .string s
  | none => .unusable

/-- The object with the given members. It is unusable when one of its keys is. -/
def ofMembers (members : List (Option String × Json)) : Json :=
  match members.mapM fun (key, value) => key.map fun key => (key, value) with
  | some members => .object members
  | none => .unusable

namespace Reading

/-- A value has been read to its end. -/
def complete (value : Json) : List Frame → Reading
  | [] => .done value
  | .array items :: outer => .within (.array (value :: items) :: outer) .next
  | .object members key :: outer => .within (.object ((key, value) :: members) key :: outer) .next

/-- Read the first token of a value. -/
def beginValue (frames : List Frame) : Token → Option Reading
  | .scalar value => some (complete value frames)
  | .string content => some (complete (ofContent content) frames)
  | .openBracket => some (.within (.array [] :: frames) .firstItem)
  | .openBrace => some (.within (.object [] none :: frames) .firstKey)
  | _ => none

/-- Read the key of a member. -/
def beginMember : List Frame → Token → Option Reading
  | .object members _ :: outer, .string key => some (.within (.object members key :: outer) .colon)
  | _, _ => none

/-- Read the end of the innermost open array or object. -/
def close : List Frame → Token → Option Reading
  | .array items :: outer, .closeBracket => some (complete (.array items.reverse) outer)
  | .object members _ :: outer, .closeBrace => some (complete (ofMembers members.reverse) outer)
  | _, _ => none

/-- Read a comma inside the innermost open array or object. -/
def separate : List Frame → Token → Option Reading
  | .array items :: outer, .comma => some (.within (.array items :: outer) .value)
  | .object members key :: outer, .comma => some (.within (.object members key :: outer) .key)
  | _, _ => none

/-- Read one token, if it may come next. -/
def step : Reading → Token → Option Reading
  | .within frames .value, token => beginValue frames token
  | .within frames .firstItem, token => (close frames token).or (beginValue frames token)
  | .within frames .firstKey, token => (close frames token).or (beginMember frames token)
  | .within frames .key, token => beginMember frames token
  | .within frames .colon, .colon => some (.within frames .value)
  | .within _ .colon, _ => none
  | .within frames .next, token => (close frames token).or (separate frames token)
  | .done _, _ => none

/-- Read all tokens. -/
def run (reading : Reading) : List Token → Option Reading
  | [] => some reading
  | token :: rest =>
    match reading.step token with
    | some reading => reading.run rest
    | none => none

end Reading

/-- The value that a list of tokens spells. -/
def ofTokens? (tokens : List Token) : Option Json :=
  match (Reading.within [] .value).run tokens with
  | some (.done value) => some value
  | _ => none

/-- The value that a text spells, or `none` when the text is not JSON. -/
def parse? (text : String) : Option Json :=
  (Token.readAll text.toList).bind ofTokens?

end Restyle.Json
