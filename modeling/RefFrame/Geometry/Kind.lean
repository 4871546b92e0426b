import RefFrame.Json.Basic

/-!
# Kinds of GeoJSON objects and their tags

There are nine kinds. An object is tagged either with the name of its kind or, while its
coordinates are in some other reference system, with that name behind `AnyCrs`. `Tag.text` and
`Tag.ofText?` are inverse to each other.
-/

namespace RefFrame

/-- The kinds of GeoJSON objects. -/
inductive GeoKind
  | point
  | multiPoint
  | lineString
  | multiLineString
  | polygon
  | multiPolygon
  | geometryCollection
  | feature
  | featureCollection
  deriving DecidableEq, Repr

namespace GeoKind

def all : List GeoKind :=
  [point, multiPoint, lineString, multiLineString, polygon, multiPolygon, geometryCollection,
    feature, featureCollection]

def name : GeoKind → String
  | point => "Point"
  | multiPoint => "MultiPoint"
  | lineString => "LineString"
  | multiLineString => "MultiLineString"
  | polygon => "Polygon"
  | multiPolygon => "MultiPolygon"
  | geometryCollection => "GeometryCollection"
  | feature => "Feature"
  | featureCollection => "FeatureCollection"

def ofName? (s : String) : Option GeoKind :=
  all.find? fun k => k.name == s

/-- Whether objects of the kind have coordinates of their own. -/
def hasCoordinates : GeoKind → Bool
  | geometryCollection | feature | featureCollection => false
  | _ => true

def ownMembers : GeoKind → List String
  | geometryCollection => ["type", "bbox", "geometries"]
  | feature => ["type", "bbox", "geometry", "properties", "id"]
  | featureCollection => ["type", "bbox", "features"]
  | _ => ["type", "bbox", "coordinates"]

end GeoKind

/-- The reference system that an object is tagged with. -/
inductive CrsVariant
  /-- The one of GeoJSON. -/
  | geoJson
  /-- Any other; the coordinates wait to be converted. -/
  | anyCrs
  deriving DecidableEq, Repr

def CrsVariant.mark : CrsVariant → String
  | geoJson => ""
  | anyCrs => "AnyCrs"

/-- What the member `type` says. -/
structure Tag where
  kind : GeoKind
  variant : CrsVariant
  deriving DecidableEq, Repr

namespace Tag

def text (t : Tag) : String :=
  t.variant.mark ++ t.kind.name

def all : List Tag :=
  GeoKind.all.flatMap fun k => [⟨k, .geoJson⟩, ⟨k, .anyCrs⟩]

def ofText? (s : String) : Option Tag :=
  all.find? fun t => t.text == s

end Tag
end RefFrame
