import RefFrame.Geometry.Kind

/-!
# GeoJSON objects

A GeoJSON object is a tree: geometries with coordinates, collections, and features around a
geometry or around none. Coordinates may be of any type; all that is said about dimensions, boxes
and tags is said for every type.

Each node remembers the dimension it was last found to have, its bounding box, and the members that
GeoJSON gives no meaning to.
-/

namespace RefFrame

abbrev Position (α : Type) := List α

/-- The coordinates of a geometry. -/
inductive Coordinates (α : Type)
  | point (position : Position α)
  | multiPoint (points : List (Position α))
  | lineString (points : List (Position α))
  | multiLineString (lines : List (List (Position α)))
  | polygon (rings : List (List (Position α)))
  | multiPolygon (polygons : List (List (List (Position α))))
  deriving DecidableEq, Repr

namespace Coordinates

variable {α : Type}

def kind : Coordinates α → GeoKind
  | point _ => .point
  | multiPoint _ => .multiPoint
  | lineString _ => .lineString
  | multiLineString _ => .multiLineString
  | polygon _ => .polygon
  | multiPolygon _ => .multiPolygon

def positions : Coordinates α → List (Position α)
  | point p => [p]
  | multiPoint ps => ps
  | lineString ps => ps
  | multiLineString ls => ls.flatten
  | polygon rs => rs.flatten
  | multiPolygon gs => gs.flatten.flatten

end Coordinates

/-- What collections collect. -/
inductive CollectionKind
  | geometries
  | features
  deriving DecidableEq, Repr

def CollectionKind.kind : CollectionKind → GeoKind
  | geometries => .geometryCollection
  | features => .featureCollection

def CollectionKind.field : CollectionKind → String
  | geometries => "geometries"
  | features => "features"

/-- What every node has. -/
structure Header (α : Type) where
  variant : CrsVariant
  /-- The dimension last found. -/
  dimension : Nat
  /-- The lower corner followed by the upper one. -/
  bbox : Option (List α)
  /-- The members without a meaning, in their order. -/
  foreign : Members

/-- What a feature has besides its geometry. -/
structure FeatureInfo where
  properties : Json
  id : Option Json

/-- A GeoJSON object with coordinates of some type. -/
inductive GeoObject (α : Type)
  | simple (header : Header α) (coordinates : Coordinates α)
  | collection (header : Header α) (of : CollectionKind) (children : List (GeoObject α))
  | feature (header : Header α) (info : FeatureInfo) (geometry : GeoObject α)
  /-- A feature without a geometry. -/
  | unlocated (header : Header α) (info : FeatureInfo)

abbrev GeoJson := GeoObject Float

def defaultDimension : Nat := 3

def Header.new {α : Type} : Header α :=
  ⟨.geoJson, defaultDimension, none, []⟩

namespace GeoObject

variable {α : Type}

def header : GeoObject α → Header α
  | simple h _ => h
  | collection h _ _ => h
  | feature h _ _ => h
  | unlocated h _ => h

def withHeader (h : Header α) : GeoObject α → GeoObject α
  | simple _ c => simple h c
  | collection _ k gs => collection h k gs
  | feature _ i g => feature h i g
  | unlocated _ i => unlocated h i

def withBox (box : Option (List α)) (g : GeoObject α) : GeoObject α :=
  g.withHeader { g.header with bbox := box }

def kind : GeoObject α → GeoKind
  | simple _ c => c.kind
  | collection _ k _ => k.kind
  | feature _ _ _ => .feature
  | unlocated _ _ => .feature

def tag (g : GeoObject α) : Tag :=
  ⟨g.kind, g.header.variant⟩

/-- The nodes right below a node. -/
def children : GeoObject α → List (GeoObject α)
  | simple _ _ => []
  | collection _ _ gs => gs
  | feature _ _ g => [g]
  | unlocated _ _ => []

mutual

/-- A node and all nodes below it, each before those below it. -/
def flatten : GeoObject α → List (GeoObject α)
  | simple h c => [simple h c]
  | collection h k gs => collection h k gs :: flattenAll gs
  | feature h i g => feature h i g :: flatten g
  | unlocated h i => [unlocated h i]

def flattenAll : List (GeoObject α) → List (GeoObject α)
  | [] => []
  | g :: gs => flatten g ++ flattenAll gs

end

mutual

def mapHeaders (f : Header α → Header α) : GeoObject α → GeoObject α
  | simple h c => simple (f h) c
  | collection h k gs => collection (f h) k (mapHeadersAll f gs)
  | feature h i g => feature (f h) i (mapHeaders f g)
  | unlocated h i => unlocated (f h) i

def mapHeadersAll (f : Header α → Header α) : List (GeoObject α) → List (GeoObject α)
  | [] => []
  | g :: gs => mapHeaders f g :: mapHeadersAll f gs

end

def setVariant (v : CrsVariant) (g : GeoObject α) : GeoObject α :=
  g.mapHeaders fun h => { h with variant := v }

end GeoObject
end RefFrame
