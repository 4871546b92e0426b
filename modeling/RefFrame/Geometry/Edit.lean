import RefFrame.Geometry.Decode
import RefFrame.Geometry.Extent

/-!
# Building and changing GeoJSON objects

New nodes are tagged for GeoJSON and have neither a box nor members of their own. What a node holds
can be replaced by something of the same kind; dimension and box follow, and a refused change
changes nothing.
-/

namespace RefFrame
namespace GeoObject

variable {α : Type}

def ofCoordinates (c : Coordinates α) : GeoObject α :=
  (simple .new c).storeDimensions

def ofChildren (k : CollectionKind) (gs : List (GeoObject α)) : GeoObject α :=
  (collection .new k gs).storeDimensions

/-- A feature with a header, around a geometry or around none. -/
def around (h : Header α) (i : FeatureInfo) : Option (GeoObject α) → GeoObject α
  | some g => feature h i g
  | none => unlocated h i

def ofFeature (i : FeatureInfo) (geometry : Option (GeoObject α)) : GeoObject α :=
  (around .new i geometry).storeDimensions

def ofGeometry (geometry : Option (GeoObject α)) (properties : Json) : GeoObject α :=
  ofFeature ⟨properties, none⟩ geometry

section Change

variable [Min α] [Max α]

/-- Brings dimensions and boxes up to date after a change. -/
def refresh (g : GeoObject α) : GeoObject α :=
  g.storeDimensions.updateBox

def setPoint (g : GeoObject α) (p : Position α) : Except GeoFault (GeoObject α) :=
  match g with
  | simple h (.point _) => .ok (simple h (.point p)).refresh
  | other => .error (.unexpectedKind .point other.kind)

def setGeometry (g : GeoObject α) (geometry : Option (GeoObject α)) :
    Except GeoFault (GeoObject α) :=
  match g with
  | feature h i _ => .ok (around h i geometry).refresh
  | unlocated h i => .ok (around h i geometry).refresh
  | other => .error (.unexpectedKind .feature other.kind)

end Change

/-- Replaces the coordinates of a geometry by the JSON form of others of the same kind. -/
def setCoordinates (g : GeoJson) (v : Json) : Except GeoFault GeoJson := do
  let c ← Coordinates.ofJson g.kind v
  return (simple g.header c).refresh

end GeoObject
end RefFrame
