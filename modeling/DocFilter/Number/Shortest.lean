import DocFilter.Number.Binary64

/-!
# Shortest decimals

Every decimal in the interval of reals that round to a number reads back as that number.  The
shortest one lies on the coarsest grid `10 ^ k` that has a point in the interval.  A grid has a
point in the interval exactly when one of the two grid points next to the number is in it, so
each grid takes one exact division to test.

All comparisons are between natural numbers: with `q` the exponent of the number, positions are
counted in units of `2 ^ (q - 2)`, and both sides are multiplied by the denominators that `q`
and `k` leave.
-/

namespace DocFilter
namespace Number

/-- The decimal `digits * 10 ^ exponent`. -/
structure Decimal where
  digits : Nat
  exponent : Int
deriving DecidableEq, Repr

namespace Shortest

/-- The numbers that round to the middle of the interval, in quarter units of its exponent. -/
structure Interval where
  /-- Lower end. -/
  low : Nat
  /-- The number itself. -/
  middle : Nat
  /-- Upper end. -/
  high : Nat
  /-- Do the ends themselves round to the middle? -/
  closed : Bool
  /-- All three are multiplied by two to this power. -/
  exponent : Int

/-- The interval that rounds to a finite number.  Halves go to the even coefficient, so the
ends belong to it when the coefficient is even. -/
def interval (x : Binary64) : Interval :=
  let m := x.coefficient
  { low := if x.gapBelowIsHalf then 4 * m - 1 else 4 * m - 2
    middle := 4 * m
    high := 4 * m + 2
    closed := m % 2 == 0
    exponent := x.exponent - 2 }

/-- What one grid step and one quarter unit amount to in a common unit. -/
def scales (q k : Int) : Nat × Nat :=
  (Nat.pow 10 k.toNat * Nat.pow 2 (-q).toNat, Nat.pow 10 (-k).toNat * Nat.pow 2 q.toNat)

/-- The point of the grid `10 ^ k` nearest to the middle among those in the interval, counted in
grid steps.  Of two equally near points the even one is taken. -/
def gridPoint (i : Interval) (k : Int) : Option Nat :=
  let (step, unit) := scales i.exponent k
  let below := i.middle * unit / step
  let above := below + 1
  let hitsBelow :=
    if i.closed then i.low * unit ≤ below * step else i.low * unit < below * step
  let hitsAbove :=
    if i.closed then above * step ≤ i.high * unit else above * step < i.high * unit
  let toBelow := i.middle * unit - below * step
  let toAbove := above * step - i.middle * unit
  if hitsBelow then
    if hitsAbove ∧ (toAbove < toBelow ∨ (toAbove = toBelow ∧ below % 2 = 1)) then some above
    else some below
  else if hitsAbove then some above
  else none

/-- Tries the grids `10 ^ k`, `10 ^ (k - 1)`, … and takes the first that has a point in the
interval. -/
def search (i : Interval) : Nat → Int → Decimal
  | 0, k => ⟨0, k⟩
  | tries + 1, k =>
      match gridPoint i k with
      | some n => ⟨n, k⟩
      | none => search i tries (k - 1)

/-- The exponent of a grid at least as coarse as every grid with a point in the interval: the
decimal logarithm of two is less than 0.30103. -/
def coarsest (i : Interval) : Int :=
  ((Nat.log2 i.high + 1 : Int) + i.exponent) * 30103 / 100000 + 2

/-- Drops trailing zeros of the digits. -/
def stripZeros : Nat → Decimal → Decimal
  | 0, d => d
  | fuel + 1, d =>
      if d.digits ≠ 0 ∧ d.digits % 10 = 0 then stripZeros fuel ⟨d.digits / 10, d.exponent + 1⟩
      else d

end Shortest

/-- The decimal with the fewest digits that reads back as the magnitude of a finite number, and
the nearest to it of those. -/
def shortestDecimal (x : Binary64) : Decimal :=
  if x.coefficient = 0 then ⟨0, 0⟩
  else
    let i := Shortest.interval x
    Shortest.stripZeros 20 (Shortest.search i 40 (Shortest.coarsest i))

end Number
end DocFilter
