import RefFrame.Json.Fields

/-!
# Converting points

Points are converted by a service elsewhere. A request names both reference systems; the reply has
the points in the other system and the operations that were applied.
-/

namespace RefFrame

/-- A point in space. -/
structure SpacePoint where
  x : Float
  y : Float
  z : Float
  deriving Repr

namespace SpacePoint

def toJson (p : SpacePoint) : Json :=
  .obj [("x", .ofFloat p.x), ("y", .ofFloat p.y), ("z", .ofFloat p.z)]

/-- Reads a point, which lies at height zero if it says nothing else. -/
def ofJson? (v : Json) : Option SpacePoint := do
  let f ← Fields.of? 3 v
  let x ← f.required 0 "x" Json.number?
  let y ← f.required 1 "y" Json.number?
  let z ← f.orElse 2 "z" 0.0 Json.number?
  return ⟨x, y, z⟩

end SpacePoint

/-- A request to convert points. -/
structure PointsRequest where
  fromCrs : String
  toCrs : String
  points : List SpacePoint

namespace PointsRequest

def toJson (r : PointsRequest) : Json :=
  .obj [("fromCRS", .str r.fromCrs), ("toCRS", .str r.toCrs),
    ("points", .arr (r.points.map SpacePoint.toJson))]

def ofJson? (v : Json) : Option PointsRequest := do
  let f ← Fields.of? 3 v
  let fromCrs ← f.required 0 "fromCRS" Json.text?
  let toCrs ← f.required 1 "toCRS" Json.text?
  let points ← f.required 2 "points" (Json.list? SpacePoint.ofJson?)
  return ⟨fromCrs, toCrs, points⟩

end PointsRequest

def operationsJson (names : List String) : Json :=
  .arr (names.map Json.str)

/-- Reads the names of operations, which may be left out. -/
def operations? (f : Fields) : Option (List String) :=
  f.orElse 1 "operationsApplied" [] (Json.list? Json.text?)

/-- The reply to a request to convert points. -/
structure PointsReply where
  points : List SpacePoint
  operations : List String

namespace PointsReply

def toJson (r : PointsReply) : Json :=
  .obj [("points", .arr (r.points.map SpacePoint.toJson)),
    ("operationsApplied", operationsJson r.operations)]

def ofJson? (v : Json) : Option PointsReply := do
  let f ← Fields.of? 2 v
  let points ← f.required 0 "points" (Json.list? SpacePoint.ofJson?)
  return ⟨points, ← operations? f⟩

end PointsReply
end RefFrame
