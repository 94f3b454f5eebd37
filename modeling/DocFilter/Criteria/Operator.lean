/-!
# Query operators

The operators that a criteria node records, the combinators that join whole criteria, and the keys
by which documents know them.
-/

namespace DocFilter

/-- An operator on a field. -/
inductive Operator where
  /-- Negates the operator recorded next. -/
  | not
  | ne
  | lt
  | lte
  | gt
  | gte
  | isIn
  | notIn
  | mod
  | all
  | size
  | present
  | type
  | elemMatch
  | near
  | nearSphere
  | geoWithin
  | geoIntersects
  | maxDistance
  | minDistance
  | bitsAllClear
  | bitsAllSet
  | bitsAnyClear
  | bitsAnySet
  | jsonSchema
deriving DecidableEq, Repr

/-- The key of an operator. -/
def Operator.key : Operator → String
  | .not => "$not"
  | .ne => "$ne"
  | .lt => "$lt"
  | .lte => "$lte"
  | .gt => "$gt"
  | .gte => "$gte"
  | .isIn => "$in"
  | .notIn => "$nin"
  | .mod => "$mod"
  | .all => "$all"
  | .size => "$size"
  | .present => "$exists"
  | .type => "$type"
  | .elemMatch => "$elemMatch"
  | .near => "$near"
  | .nearSphere => "$nearSphere"
  | .geoWithin => "$geoWithin"
  | .geoIntersects => "$geoIntersects"
  | .maxDistance => "$maxDistance"
  | .minDistance => "$minDistance"
  | .bitsAllClear => "$bitsAllClear"
  | .bitsAllSet => "$bitsAllSet"
  | .bitsAnyClear => "$bitsAnyClear"
  | .bitsAnySet => "$bitsAnySet"
  | .jsonSchema => "$jsonSchema"

/-- A number for each operator, in the order of their declaration. -/
def Operator.index : Operator → Nat
  | .not => 0
  | .ne => 1
  | .lt => 2
  | .lte => 3
  | .gt => 4
  | .gte => 5
  | .isIn => 6
  | .notIn => 7
  | .mod => 8
  | .all => 9
  | .size => 10
  | .present => 11
  | .type => 12
  | .elemMatch => 13
  | .near => 14
  | .nearSphere => 15
  | .geoWithin => 16
  | .geoIntersects => 17
  | .maxDistance => 18
  | .minDistance => 19
  | .bitsAllClear => 20
  | .bitsAllSet => 21
  | .bitsAnyClear => 22
  | .bitsAnySet => 23
  | .jsonSchema => 24

/-- Operators that compare a field with one value. -/
inductive Comparison where
  | ne
  | lt
  | lte
  | gt
  | gte
deriving DecidableEq, Repr

/-- The operator of a comparison. -/
def Comparison.operator : Comparison → Operator
  | .ne => .ne
  | .lt => .lt
  | .lte => .lte
  | .gt => .gt
  | .gte => .gte

/-- Operators that compare a field with a list of candidates. -/
inductive Membership where
  | isIn
  | notIn
  | all
deriving DecidableEq, Repr

/-- The operator of a comparison with candidates. -/
def Membership.operator : Membership → Operator
  | .isIn => .isIn
  | .notIn => .notIn
  | .all => .all

/-- Bounds on a distance. -/
inductive Bound where
  | max
  | min
deriving DecidableEq, Repr

/-- The operator of a bound. -/
def Bound.operator : Bound → Operator
  | .max => .maxDistance
  | .min => .minDistance

/-- Operators that test single bits. -/
inductive BitTest where
  | allClear
  | allSet
  | anyClear
  | anySet
deriving DecidableEq, Repr

/-- The operator of a bit test. -/
def BitTest.operator : BitTest → Operator
  | .allClear => .bitsAllClear
  | .allSet => .bitsAllSet
  | .anyClear => .bitsAnyClear
  | .anySet => .bitsAnySet

/-- A boolean combinator of whole criteria. -/
inductive Combinator where
  | and
  | or
  | nor
deriving DecidableEq, Repr

/-- The key of a combinator. -/
def Combinator.key : Combinator → String
  | .and => "$and"
  | .or => "$or"
  | .nor => "$nor"

/-- A number for each combinator, in the order of their declaration. -/
def Combinator.index : Combinator → Nat
  | .and => 0
  | .or => 1
  | .nor => 2

end DocFilter
