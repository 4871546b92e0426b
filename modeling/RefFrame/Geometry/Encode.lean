import RefFrame.Geometry.Basic

/-!
# The JSON form of GeoJSON objects

An object is written with its tag first, what is its own next, then its bounding box if it has one,
and at the end the members that GeoJSON gives no meaning to.
-/

namespace RefFrame

def Json.ofList {β : Type} (f : β → Json) (xs : List β) : Json :=
  .arr (xs.map f)

def Json.ofPosition : Position Float → Json :=
  .ofList .ofFloat

namespace Coordinates

/-- The member `coordinates`. -/
def toJson : Coordinates Float → Json
  | point p => .ofPosition p
  | multiPoint ps => .ofList .ofPosition ps
  | lineString ps => .ofList .ofPosition ps
  | multiLineString ls => .ofList (.ofList .ofPosition) ls
  | polygon rs => .ofList (.ofList .ofPosition) rs
  | multiPolygon gs => .ofList (.ofList (.ofList .ofPosition)) gs

end Coordinates

namespace FeatureInfo

/-- The members of a feature around that of its geometry. -/
def members (i : FeatureInfo) (geometry : Json) : Members :=
  let id := match i.id with
    | some v => [("id", v)]
    | none => []
  id ++ [("geometry", geometry), ("properties", i.properties)]

end FeatureInfo

namespace GeoJson

/-- The members of an object of a kind, given those that are its own. -/
def membersOf (kind : GeoKind) (h : Header Float) (own : Members) : Json :=
  let box := match h.bbox with
    | some b => [("bbox", Json.ofPosition b)]
    | none => []
  .obj (("type", .str (Tag.text ⟨kind, h.variant⟩)) :: own ++ box ++ h.foreign)

mutual

def toJson : GeoJson → Json
  | .simple h c => membersOf c.kind h [("coordinates", c.toJson)]
  | .collection h k gs => membersOf k.kind h [(k.field, .arr (toJsonAll gs))]
  | .feature h i g => membersOf .feature h (i.members (toJson g))
  | .unlocated h i => membersOf .feature h (i.members .null)

def toJsonAll : List GeoJson → List Json
  | [] => []
  | g :: gs => toJson g :: toJsonAll gs

end

end GeoJson
end RefFrame
