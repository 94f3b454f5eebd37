import DocFilter.Number.Shortest

/-!
# Nearest binary numbers

A decimal is read as the nearest floating point number; of two equally near ones as the one with
the even coefficient.  A decimal too large becomes infinite, and one too small a zero.  Everything
is computed exactly on natural numbers.

No other definition of the library reads decimals, since it is handed numbers.  This module is for
a program in front of it that takes values as text and hands over the numbers of its decimals.  It
reads back the decimals that are written for numbers (`ofDecimal_shortestDecimal`).
-/

namespace DocFilter
namespace Number

namespace Binary64

/-- The number with a sign and the 63 bits below it. -/
def ofParts (negative : Bool) (magnitude : Nat) : Binary64 :=
  ⟨UInt64.ofNat ((if negative then Nat.pow 2 63 else 0) + magnitude)⟩

/-- The magnitude bits of infinity. -/
def infinity : Nat := 2047 * fractionCount

/-- The positive NaN that carries no payload. -/
def nan : Binary64 := ofParts false (infinity + fractionCount / 2)

end Binary64

namespace Nearest

/-- A quotient rounded to the nearest natural number, half to even. -/
def roundQuotient (n d : Nat) : Nat :=
  let q := n / d
  let r := n % d
  if d < 2 * r ∨ (2 * r = d ∧ q % 2 = 1) then q + 1 else q

/-- The largest `e` with `2 ^ e * d ≤ n`, for positive numbers. -/
def binaryExponent (n d : Nat) : Int :=
  let e : Int := (Nat.log2 n : Int) - Nat.log2 d
  if d * Nat.pow 2 e.toNat ≤ n * Nat.pow 2 (-e).toNat then e else e - 1

/-- The magnitude bits of the number nearest to a positive quotient. -/
def magnitude (n d : Nat) : Nat :=
  let q := max (binaryExponent n d - 52) (-1074)
  let m := roundQuotient (n * Nat.pow 2 (-q).toNat) (d * Nat.pow 2 q.toNat)
  let bits := (q + 1074).toNat * Binary64.fractionCount + m
  if Binary64.infinity < bits then Binary64.infinity else bits

end Nearest

/-- The number nearest to a decimal with a sign.  Decimals far outside the range of numbers are
decided by their digit count alone. -/
def Binary64.ofDecimal (negative : Bool) (d : Decimal) : Binary64 :=
  let size : Int := (Nat.toDigits 10 d.digits).length + d.exponent
  let magnitude :=
    if d.digits = 0 ∨ size < -400 then 0
    else if 400 < size then infinity
    else Nearest.magnitude (d.digits * Nat.pow 10 d.exponent.toNat) (Nat.pow 10 (-d.exponent).toNat)
  ofParts negative magnitude

end Number
end DocFilter
