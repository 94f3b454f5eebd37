/-!
# Binary floating point numbers of 64 bits

A number is its bit pattern, so two numbers are equal exactly when their bits are: a zero differs
from its negative, and a NaN equals every NaN of the same payload.  The magnitude of a finite
number is read off the pattern as a natural number times a power of two.
-/

namespace DocFilter
namespace Number

/-- A number given by its sign bit, eleven exponent bits and 52 fraction bits. -/
structure Binary64 where
  bits : UInt64
deriving DecidableEq, Repr, Inhabited

namespace Binary64

/-- Is the sign bit set? -/
def negative (x : Binary64) : Bool :=
  x.bits.toNat / Nat.pow 2 63 == 1

/-- The number of fractions, `2 ^ 52`. -/
def fractionCount : Nat := Nat.pow 2 52

/-- The biased exponent. -/
def biasedExponent (x : Binary64) : Nat :=
  x.bits.toNat / fractionCount % 2048

/-- The fraction bits. -/
def fraction (x : Binary64) : Nat :=
  x.bits.toNat % fractionCount

/-- Neither infinite nor a NaN. -/
def isFinite (x : Binary64) : Bool :=
  x.biasedExponent != 2047

/-- The coefficient `m` of the magnitude `m * 2 ^ q` of a finite number. -/
def coefficient (x : Binary64) : Nat :=
  if x.biasedExponent = 0 then x.fraction else fractionCount + x.fraction

/-- The exponent `q` of the magnitude `m * 2 ^ q` of a finite number. -/
def exponent (x : Binary64) : Int :=
  if x.biasedExponent = 0 then -1074 else (x.biasedExponent : Int) - 1075

/-- Is the next smaller magnitude only half as far away as the next larger one? -/
def gapBelowIsHalf (x : Binary64) : Bool :=
  x.fraction == 0 && 1 < x.biasedExponent

end Binary64

end Number
end DocFilter
