import DocFilter.Criteria.Builder

/-!
# Builder calls

Every call of the criteria builder as a value, and what it does to criteria.  A run makes calls one
after the other and goes on after a refused one with the criteria unchanged.
-/

namespace DocFilter

open Number (Binary64)
open Geo

namespace Criteria

/-- A call of the builder. -/
inductive Call where
  /-- Goes on with another field. -/
  | andField (key : String)
  /-- Requires equality. -/
  | equals (v : Value)
  /-- Negates the next operator. -/
  | negate
  /-- Compares with a value. -/
  | compare (op : Comparison) (v : Value)
  /-- Compares with candidates. -/
  | member (op : Membership) (vs : List Value)
  /-- Requires a remainder after division. -/
  | modulo (divisor remainder : Value)
  /-- Requires a number of elements. -/
  | size (n : Int32)
  /-- Requires the field to be there, or not to be. -/
  | present (b : Bool)
  /-- Requires a type by its number. -/
  | typeNumber (n : Int32)
  /-- Requires one of several types. -/
  | typeOf (types : List TypeAlias)
  /-- Matches against a pattern given by source and options. -/
  | matchSource (source options : String)
  /-- Matches against a compiled pattern. -/
  | matchPattern (p : Pattern)
  /-- Requires nearness. -/
  | near (s : Shape)
  /-- Requires nearness on the sphere. -/
  | nearSphere (s : Shape)
  /-- Requires containment. -/
  | within (s : Shape)
  /-- Requires containment in a circle on the sphere. -/
  | withinSphere (c : Geo.Circle)
  /-- Requires a common point with a geometry. -/
  | intersects (g : Geometry)
  /-- Bounds the distance of nearness. -/
  | bound (b : Bound) (distance : Binary64)
  /-- Requires an element that meets other criteria. -/
  | elemMatch (c : Criteria)
  /-- Adds a schema to the chain. -/
  | andSchema (schema : Document)
  /-- Adds a combinator to the chain. -/
  | combine (op : Combinator) (cs : List Criteria)
  /-- Tests bits. -/
  | testBits (t : BitTest) (mask : Bitmask)

/-- What a call does. -/
def call (c : Criteria) : Call → Except Error Criteria
  | .andField key => c.andField key
  | .equals v => c.equals v
  | .negate => .ok c.negate
  | .compare op v => .ok (c.put op.operator (.value v))
  | .member op vs => c.member op vs
  | .modulo divisor remainder => .ok (c.put .mod (.value (.array [divisor, remainder])))
  | .size n => .ok (c.put .size (.value (.int32 n)))
  | .present b => .ok (c.put .present (.value (.bool b)))
  | .typeNumber n => .ok (c.put .type (.value (.int32 n)))
  | .typeOf types =>
      .ok (c.put .type (.value (.array (types.map fun t => .string t.name))))
  | .matchSource source options => c.matchSource source options
  | .matchPattern p => .ok (c.matchPattern p)
  | .near s => .ok (c.put .near (.shape s))
  | .nearSphere s => .ok (c.put .nearSphere (.shape s))
  | .within s => .ok (c.put .geoWithin (.command s))
  | .withinSphere circle => .ok (c.put .geoWithin (.command (.sphere circle)))
  | .intersects g => .ok (c.put .geoIntersects (.shape (.geometry g)))
  | .bound b distance => .ok (c.bound b distance)
  | .elemMatch d => c.elemMatch d
  | .andSchema schema => c.andSchema schema
  | .combine op cs => c.combine op cs
  | .testBits t mask => c.testBits t mask

/-- The criteria after a call, unchanged if the call is refused. -/
def callOrKeep (c : Criteria) (step : Call) : Criteria :=
  match c.call step with
  | .ok d => d
  | .error _ => c

/-- The criteria after a run of calls. -/
def run (c : Criteria) (steps : List Call) : Criteria :=
  steps.foldl callOrKeep c

end Criteria

end DocFilter
