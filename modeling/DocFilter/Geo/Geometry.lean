import DocFilter.Value.Document

/-!
# Geometries

A geometry is a point, a list of points nested up to three levels deep, or a collection of
geometries.  It is written as a document of its type and its coordinates, where the type tells
apart kinds whose coordinates look alike.
-/

namespace DocFilter
namespace Geo

open Number (Binary64)

/-- A point in the plane, or a longitude and a latitude. -/
structure Point where
  x : Binary64
  y : Binary64
deriving DecidableEq, Repr

/-- The coordinates of a point. -/
def Point.toValue (p : Point) : Value :=
  .array [.double p.x, .double p.y]

/-- The coordinates of points in order. -/
def pointsValue (ps : List Point) : Value :=
  .array (ps.map Point.toValue)

/-- The coordinates of lists of points in order. -/
def ringsValue (rings : List (List Point)) : Value :=
  .array (rings.map pointsValue)

/-- A geometry. -/
inductive Geometry where
  | point (p : Point)
  | multiPoint (ps : List Point)
  | lineString (ps : List Point)
  | multiLineString (lines : List (List Point))
  /-- The first ring is the outer one. -/
  | polygon (rings : List (List Point))
  | multiPolygon (polygons : List (List (List Point)))
  | collection (geometries : List Geometry)
deriving Repr

namespace Geometry

/-- The type that the document of a geometry names. -/
def kind : Geometry → String
  | .point _ => "Point"
  | .multiPoint _ => "MultiPoint"
  | .lineString _ => "LineString"
  | .multiLineString _ => "MultiLineString"
  | .polygon _ => "Polygon"
  | .multiPolygon _ => "MultiPolygon"
  | .collection _ => "GeometryCollection"

/-- A document of a type and one more entry. -/
def typed (kind key : String) (v : Value) : Document :=
  ⟨[("type", .string kind), (key, v)]⟩

mutual

/-- The document of a geometry. -/
def toDocument : Geometry → Document
  | .point p => typed "Point" "coordinates" p.toValue
  | .multiPoint ps => typed "MultiPoint" "coordinates" (pointsValue ps)
  | .lineString ps => typed "LineString" "coordinates" (pointsValue ps)
  | .multiLineString lines => typed "MultiLineString" "coordinates" (ringsValue lines)
  | .polygon rings => typed "Polygon" "coordinates" (ringsValue rings)
  | .multiPolygon polygons =>
      typed "MultiPolygon" "coordinates" (.array (polygons.map ringsValue))
  | .collection gs => typed "GeometryCollection" "geometries" (.array (toValues gs))

/-- The documents of geometries, as values. -/
def toValues : List Geometry → List Value
  | [] => []
  | g :: gs => .document (toDocument g) :: toValues gs

end

/-- The document of a geometry under the key by which operators know it. -/
def toOperand (g : Geometry) : Document :=
  Document.single "$geometry" (.document g.toDocument)

mutual

/-- Equality of geometries. -/
def same : Geometry → Geometry → Bool
  | .point p, .point q => decide (p = q)
  | .multiPoint p, .multiPoint q => decide (p = q)
  | .lineString p, .lineString q => decide (p = q)
  | .multiLineString p, .multiLineString q => decide (p = q)
  | .polygon p, .polygon q => decide (p = q)
  | .multiPolygon p, .multiPolygon q => decide (p = q)
  | .collection p, .collection q => sameAll p q
  | _, _ => false

/-- Equality of lists of geometries. -/
def sameAll : List Geometry → List Geometry → Bool
  | [], [] => true
  | g :: gs, h :: hs => same g h && sameAll gs hs
  | _, _ => false

end

instance : BEq Geometry := ⟨same⟩

end Geometry

end Geo
end DocFilter
