import DocFilter.Geo.Geometry

/-!
# Shapes

A shape is what a spatial operator takes: a geometry, or one of the older flat shapes, which are
written under an operator key of their own.  An older point is a bare pair of coordinates.
-/

namespace DocFilter
namespace Geo

open Number (Binary64)

/-- A rectangle given by two opposite corners. -/
structure Box where
  first : Point
  second : Point
deriving DecidableEq, Repr

/-- A circle given by its centre and radius. -/
structure Circle where
  center : Point
  radius : Binary64
deriving DecidableEq, Repr

/-- The centre and the radius of a circle. -/
def Circle.toValue (c : Circle) : Value :=
  .array [c.center.toValue, .double c.radius]

/-- What a spatial operator takes. -/
inductive Shape where
  | point (p : Point)
  | box (b : Box)
  /-- A circle in the plane. -/
  | circle (c : Circle)
  /-- A circle on the sphere, its radius in radians. -/
  | sphere (c : Circle)
  /-- A polygon given by its corners. -/
  | polygon (corners : List Point)
  | geometry (g : Geometry)
deriving Repr

namespace Shape

/-- Is the shape a geometry? -/
def isGeometry : Shape → Bool
  | .geometry _ => true
  | _ => false

/-- The shape as the argument of a containment test: a flat shape stands under the key that names
its kind, a point and a geometry under none. -/
def toCommand : Shape → Value
  | .point p => p.toValue
  | .box b => .document (.single "$box" (.array [b.first.toValue, b.second.toValue]))
  | .circle c => .document (.single "$center" c.toValue)
  | .sphere c => .document (.single "$centerSphere" c.toValue)
  | .polygon corners => .document (.single "$polygon" (pointsValue corners))
  | .geometry g => .document g.toDocument

/-- The shape as a bare value: a point as its coordinates, a geometry as its document, and any
other shape as a command. -/
def toValue : Shape → Value
  | .point p => p.toValue
  | .geometry g => .document g.toDocument
  | s => s.toCommand

/-- Equality of shapes. -/
def same : Shape → Shape → Bool
  | .point p, .point q => decide (p = q)
  | .box p, .box q => decide (p = q)
  | .circle p, .circle q => decide (p = q)
  | .sphere p, .sphere q => decide (p = q)
  | .polygon p, .polygon q => decide (p = q)
  | .geometry g, .geometry h => g.same h
  | _, _ => false

instance : BEq Shape := ⟨same⟩

end Shape

end Geo
end DocFilter
