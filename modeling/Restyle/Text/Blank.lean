import Restyle.Text.Stretch

set_option autoImplicit false

/-! # Blank characters

The characters with the property White_Space, and trimming by them. -/

namespace Restyle.Text

/-- The code points with the property White_Space. -/
def blankStretches : List Stretch :=
  [⟨0x0009, 0x000D, 1⟩, ⟨0x0020, 0x0020, 1⟩,
   ⟨0x0085, 0x0085, 1⟩, ⟨0x00A0, 0x00A0, 1⟩, ⟨0x1680, 0x1680, 1⟩, ⟨0x2000, 0x200A, 1⟩,
   ⟨0x2028, 0x2029, 1⟩, ⟨0x202F, 0x202F, 1⟩, ⟨0x205F, 0x205F, 1⟩, ⟨0x3000, 0x3000, 1⟩]

/-- Whether `c` has the property White_Space. -/
def isBlank (c : Char) : Bool := inStretches blankStretches c

/-- Drop the blanks at both ends. -/
def trim (cs : List Char) : List Char :=
  ((cs.dropWhile isBlank).reverse.dropWhile isBlank).reverse

end Restyle.Text
