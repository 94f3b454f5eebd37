import DocFilter.Geo.Shape
import DocFilter.Value.HashData

/-!
# Hash data of shapes

Shapes feed their kind and the bits of their coordinates, with the length of every list before its
items.
-/

namespace DocFilter
namespace Geo

/-- The data of a point. -/
def Point.hashData (p : Point) : HashData :=
  [.bits p.x.bits, .bits p.y.bits]

/-- The data of points in order. -/
def pointsData (ps : List Point) : HashData :=
  HashData.ofList (ps.map Point.hashData)

/-- The data of lists of points in order. -/
def ringsData (rings : List (List Point)) : HashData :=
  HashData.ofList (rings.map pointsData)

/-- The data of a box. -/
def Box.hashData (b : Box) : HashData :=
  b.first.hashData ++ b.second.hashData

/-- The data of a circle. -/
def Circle.hashData (c : Circle) : HashData :=
  c.center.hashData ++ [.bits c.radius.bits]

namespace Geometry

mutual

/-- The data of a geometry. -/
def hashData : Geometry → HashData
  | .point p => .tag 0 :: p.hashData
  | .multiPoint ps => .tag 1 :: pointsData ps
  | .lineString ps => .tag 2 :: pointsData ps
  | .multiLineString lines => .tag 3 :: ringsData lines
  | .polygon rings => .tag 4 :: ringsData rings
  | .multiPolygon polygons => .tag 5 :: HashData.ofList (polygons.map ringsData)
  | .collection gs => .tag 6 :: HashData.ofList (hashItems gs)

/-- The data of each geometry. -/
def hashItems : List Geometry → List HashData
  | [] => []
  | g :: gs => hashData g :: hashItems gs

end

end Geometry

/-- The data of a shape. -/
def Shape.hashData : Shape → HashData
  | .point p => .tag 0 :: p.hashData
  | .box b => .tag 1 :: b.hashData
  | .circle c => .tag 2 :: c.hashData
  | .sphere c => .tag 3 :: c.hashData
  | .polygon corners => .tag 4 :: pointsData corners
  | .geometry g => .tag 5 :: g.hashData

end Geo
end DocFilter
