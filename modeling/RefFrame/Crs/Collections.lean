import RefFrame.Crs.Points
import RefFrame.Geometry.Decode
import RefFrame.Geometry.Encode

/-!
# Converting feature collections

A request carries a valid feature collection, every node of it tagged as being in any reference
system. The collection of a reply is tagged for GeoJSON again.
-/

namespace RefFrame

/-- Reads a GeoJSON object where any fault counts alike. -/
def GeoJson.ofJson? (v : Json) : Option GeoJson :=
  (GeoJson.ofJson v).toOption

/-- A request to convert a feature collection. -/
structure CollectionRequest where
  collection : GeoJson
  toCrs : String
  toUnitZ : Option String

namespace CollectionRequest

def new (g : GeoJson) (toCrs : String) (toUnitZ : Option String) :
    Except GeoFault CollectionRequest :=
  if g.kind ≠ .featureCollection then .error (.unexpectedKind .featureCollection g.kind)
  else if !g.isValid then .error (.invalid g.kind)
  else .ok ⟨g.storeDimensions.setVariant .anyCrs, toCrs, toUnitZ⟩

def toJson (r : CollectionRequest) : Json :=
  let unit := match r.toUnitZ with
    | some u => [("toUnitZ", Json.str u)]
    | none => []
  .obj ([("featureCollection", GeoJson.toJson r.collection), ("toCRS", .str r.toCrs)] ++ unit)

/-- Reads a request; what it carries is not checked again. -/
def ofJson? (v : Json) : Option CollectionRequest := do
  let f ← Fields.of? 3 v
  let collection ← f.required 0 "featureCollection" GeoJson.ofJson?
  let toCrs ← f.required 1 "toCRS" Json.text?
  let toUnitZ ← f.orElse 2 "toUnitZ" none (Json.nullable? Json.text?)
  return ⟨collection, toCrs, toUnitZ⟩

end CollectionRequest

/-- The reply to a request to convert a feature collection. -/
structure CollectionReply where
  collection : GeoJson
  operations : List String

namespace CollectionReply

def geoJson (r : CollectionReply) : GeoJson :=
  r.collection.setVariant .geoJson

def toJson (r : CollectionReply) : Json :=
  .obj [("featureCollection", GeoJson.toJson r.collection),
    ("operationsApplied", operationsJson r.operations)]

def ofJson? (v : Json) : Option CollectionReply := do
  let f ← Fields.of? 2 v
  let collection ← f.required 0 "featureCollection" GeoJson.ofJson?
  return ⟨collection, ← operations? f⟩

end CollectionReply
end RefFrame
