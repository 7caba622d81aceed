import Restyle.Text.Cased
import Restyle.Text.Upcase

set_option autoImplicit false

/-! # Names in upper snake case

Constants have names in upper snake case. `upperSnake` derives such a name from a key: `myColor`
and `my-color` both give `MY_COLOR`, and a key in upper snake case gives itself. -/

namespace Restyle

/-- Whether a character may stand in an upper snake case name. -/
def isUpperSnakeChar (c : Char) : Bool := c.isUpper || c.isDigit || c == '_'

/-- Whether a word is in upper snake case. -/
def isUpperSnake (cs : List Char) : Bool := !cs.isEmpty && cs.all isUpperSnakeChar

/-- Whether a new word starts at `c` behind `before`: where a lower case letter or a digit meets an
upper case letter. -/
def startsWord (before : Option Char) (c : Char) : Bool :=
  Text.isUppercase c && before.any fun b => Text.isLowercase b || b.isDigit

/-- What a character behind `before` becomes in upper snake case. -/
def snakeChar (before : Option Char) (c : Char) : List Char :=
  if c == '-' then ['_']
  else if startsWord before c then '_' :: Text.upcase c
  else Text.upcase c

/-- A word behind `before` in upper snake case. -/
def snakeChars : Option Char → List Char → List Char
  | _, [] => []
  | before, c :: rest => snakeChar before c ++ snakeChars (some c) rest

/-- The upper snake case name for a key. -/
def upperSnake (key : String) : String :=
  if isUpperSnake key.toList then key else String.ofList (snakeChars none key.toList)

end Restyle
