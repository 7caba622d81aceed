set_option autoImplicit false

/-! # Stretches of code points

A character class is written as a list of stretches: every `step`-th code point from `first`
to `last`. Alternating upper and lower case letters make stretches of step two common. -/

namespace Restyle.Text

/-- The code points `first`, `first + step`, … up to `last`. -/
structure Stretch where
  first : Nat
  last : Nat
  step : Nat
deriving DecidableEq, Repr

namespace Stretch

/-- Whether a code point lies on the stretch. -/
def contains (s : Stretch) (n : Nat) : Bool :=
  s.first ≤ n && n ≤ s.last && (n - s.first) % s.step == 0

end Stretch

/-- Whether some stretch of the list holds the code point of `c`. -/
def inStretches (table : List Stretch) (c : Char) : Bool :=
  table.any (·.contains c.toNat)

/-- Whether `c` is one of the first 128 code points. -/
def isAscii (c : Char) : Bool := c.toNat < 128

end Restyle.Text
