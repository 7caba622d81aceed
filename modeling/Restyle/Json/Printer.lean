import Restyle.Json.Basic

set_option autoImplicit false

/-! # Printing JSON texts

A value is printed with one item or member on a line, indented by two blanks a level. An array or
object without content is `[]` or `{}`. An unusable value is printed as a number beyond the range,
which reads back as unusable. -/

namespace Restyle.Json

/-! ## Scalars -/

/-- The lower case hexadecimal digit of a number below sixteen. -/
def hexDigit (n : Nat) : Char :=
  if n < 10 then Char.ofNat ('0'.toNat + n) else Char.ofNat ('a'.toNat + (n - 10))

/-- A character inside a string literal. Quote, backslash and control characters are escaped, with
a letter where there is one; every other character stands for itself. -/
def escapeChar (c : Char) : List Char :=
  if c = '"' then ['\\', '"']
  else if c = '\\' then ['\\', '\\']
  else if c = '\n' then ['\\', 'n']
  else if c = '\r' then ['\\', 'r']
  else if c = '\t' then ['\\', 't']
  else if c = '\x08' then ['\\', 'b']
  else if c = '\x0c' then ['\\', 'f']
  else if c.toNat < 0x20 then
    ['\\', 'u', '0', '0', hexDigit (c.toNat / 16), hexDigit (c.toNat % 16)]
  else [c]

/-- The literal of a string. -/
def quote (s : String) : List Char := '"' :: (s.toList.flatMap escapeChar ++ ['"'])

/-- The decimal digits of an integer. -/
def printInt : Int → List Char
  | .ofNat n => Nat.toDigits 10 n
  | .negSucc n => '-' :: Nat.toDigits 10 (n + 1)

/-- A number: the mantissa, and the exponent unless it is an integer. -/
def printDecimal : Decimal → List Char
  | ⟨mantissa, none⟩ => printInt mantissa
  | ⟨mantissa, some exponent⟩ => printInt mantissa ++ 'e' :: printInt exponent

/-- The literal of a value that is no array and no object. -/
def printScalar : Json → List Char
  | .null => "null".toList
  | .bool true => "true".toList
  | .bool false => "false".toList
  | .number value => printDecimal value
  | .string s => quote s
  | _ => "1e999".toList

/-! ## Values -/

/-- A line break and the indentation of a level. -/
def lineBreak (level : Nat) : List Char := '\n' :: List.replicate (2 * level) ' '

mutual

/-- A value whose first line stands at a level. -/
def prettyChars (level : Nat) : Json → List Char
  | .array [] => ['[', ']']
  | .array (item :: rest) => '[' :: prettyItems level (item :: rest)
  | .object [] => ['\x7b', '\x7d']
  | .object (member :: rest) => '\x7b' :: prettyMembers level (member :: rest)
  | value => printScalar value

/-- The items of an array at a level, each on a new line, and its end. -/
def prettyItems (level : Nat) : List Json → List Char
  | [] => lineBreak level ++ [']']
  | [item] => lineBreak (level + 1) ++ prettyChars (level + 1) item ++ lineBreak level ++ [']']
  | item :: rest =>
    lineBreak (level + 1) ++ prettyChars (level + 1) item ++ ',' :: prettyItems level rest

/-- The members of an object at a level, each on a new line, and its end. -/
def prettyMembers (level : Nat) : List (String × Json) → List Char
  | [] => lineBreak level ++ ['\x7d']
  | [(key, value)] =>
    lineBreak (level + 1) ++ quote key ++ [':', ' '] ++ prettyChars (level + 1) value ++
      lineBreak level ++ ['\x7d']
  | (key, value) :: rest =>
    lineBreak (level + 1) ++ quote key ++ [':', ' '] ++ prettyChars (level + 1) value ++
      ',' :: prettyMembers level rest

end

/-- A value with one item or member on a line. -/
def pretty (value : Json) : String := String.ofList (prettyChars 0 value)

end Restyle.Json
