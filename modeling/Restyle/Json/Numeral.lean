import Restyle.Json.Basic

set_option autoImplicit false

/-! # Numbers in JSON texts

A numeral is what the number grammar reads: an optional minus sign, digits without a leading zero,
optional digits behind a point, and an optional exponent. `Numeral.inRange` tells whether it can be
used: the leading digits are taken as a 64-bit integer, and their double precision product with the
power of ten that remains has to be finite. -/

namespace Restyle

/-- A number as written, digit by digit. -/
structure Numeral where
  negative : Bool
  whole : List Nat
  fraction : List Nat
  exponent : Option Int
deriving DecidableEq, Repr

namespace Numeral

/-- The natural number with the given decimal digits. -/
def ofDigits (digits : List Nat) : Nat := digits.foldl (fun n d => n * 10 + d) 0

/-- Whether a numeral is an integer: it has no point and no exponent, and is not the zero with a
sign. -/
def isInteger (n : Numeral) : Bool :=
  n.fraction.isEmpty && n.exponent.isNone && !(n.negative && ofDigits n.whole == 0)

/-- The exact value of a numeral. -/
def value (n : Numeral) : Decimal :=
  let magnitude : Int := ofDigits (n.whole ++ n.fraction)
  ⟨if n.negative then -magnitude else magnitude,
    if n.isInteger then none else some (n.exponent.getD 0 - n.fraction.length)⟩

/-! ## Range -/

/-- `n` rounded to 53 significant bits, a half to the even neighbour. -/
def roundBits (n : Nat) : Nat :=
  let unit := Nat.pow 2 (n.log2 + 1 - 53)
  let quotient := n / unit
  let twice := 2 * (n % unit)
  if unit < twice || (twice == unit && quotient % 2 == 1) then (quotient + 1) * unit
  else quotient * unit

/-- Take leading digits into `start` while the number fits 64 bits; also how many were taken. -/
def takeDigits (start : Nat) : List Nat → Nat × Nat
  | [] => (start, 0)
  | d :: rest =>
    if start * 10 + d < 2 ^ 64 then
      let (n, taken) := takeDigits (start * 10 + d) rest
      (n, taken + 1)
    else (start, 0)

/-- The leading digits that fit 64 bits, and the power of ten that they stand before. -/
def leading (n : Numeral) : Nat × Int :=
  let (whole, takenWhole) := takeDigits 0 n.whole
  let (digits, takenFraction) := takeDigits whole n.fraction
  (digits, n.exponent.getD 0 + (n.whole.length - takenWhole : Nat) - takenFraction)

/-- Whether a numeral stands for a finite double precision number. -/
def inRange (n : Numeral) : Bool :=
  match n.leading with
  | (0, _) => true
  | (_, .negSucc _) => true
  | (digits, .ofNat power) =>
    power ≤ 308 && roundBits (roundBits digits * roundBits (Nat.pow 10 power)) < Nat.pow 2 1024

end Numeral

end Restyle
