import DocFilter.Number.Shortest

/-!
# Laying out decimals as text

A layout says which decimals are written in positional form.  All others are written with one
digit before the point and an exponent that always has a sign.
-/

namespace DocFilter
namespace Number

/-- The choices between positional and scientific form. -/
structure Layout where
  /-- The least exponent of the leading digit that is written positionally. -/
  leastPositional : Int
  /-- The first exponent of the leading digit that is no longer written positionally. -/
  positionalBound : Int

namespace Layout

/-- Positional form with at least one digit on each side of the point.  The decimal is
`0.digits` times ten to the power `point`. -/
def positional (digits : String) (point : Int) : String :=
  let n := digits.length
  if point ≤ 0 then
    "0." ++ String.ofList (List.replicate (-point).toNat '0') ++ digits
  else if (n : Int) ≤ point then
    digits ++ String.ofList (List.replicate (point.toNat - n) '0') ++ ".0"
  else
    String.ofList (digits.toList.take point.toNat) ++ "." ++
      String.ofList (digits.toList.drop point.toNat)

/-- One digit, the others behind a point, and the exponent of the leading digit. -/
def scientific (digits : String) (leading : Int) : String :=
  let mantissa :=
    match digits.toList with
    | [] => ""
    | [d] => String.ofList [d]
    | d :: rest => String.ofList (d :: '.' :: rest)
  mantissa ++ "e" ++ (if leading < 0 then "-" else "+") ++ toString leading.natAbs

/-- The text of a decimal that is not zero. -/
def write (l : Layout) (d : Decimal) : String :=
  let digits := toString d.digits
  let point : Int := digits.length + d.exponent
  let leading := point - 1
  if l.leastPositional ≤ leading ∧ leading < l.positionalBound then positional digits point
  else scientific digits leading

/-- The text of a finite number: its sign, then its shortest decimal. -/
def writeBinary64 (l : Layout) (x : Binary64) : String :=
  let magnitude :=
    if x.coefficient = 0 then "0.0" else l.write (shortestDecimal x)
  if x.negative then "-" ++ magnitude else magnitude

end Layout

end Number
end DocFilter
