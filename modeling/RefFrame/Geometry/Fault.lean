import RefFrame.Geometry.Kind

/-!
# Faults of GeoJSON objects

All that can be wrong with the JSON form of a GeoJSON object, or with a change to one.
-/

namespace RefFrame

/-- Why a value is no position, no list of positions, or no box. -/
inductive CoordinateFault
  | notArray (found : String)
  | notNumber (found : String)
  | boxLength (found : Nat)
  deriving DecidableEq, Repr

def CoordinateFault.message : CoordinateFault → String
  | notArray found => "expected an array, found " ++ found
  | notNumber found => "expected a number, found " ++ found
  | boxLength found =>
    "expected an even number of at least 4 values, found " ++ toString found

/-- Why a value is no GeoJSON object, or a change is refused. -/
inductive GeoFault
  | notJson (refusal : String)
  | notObject (found : String)
  | missingField (field : String)
  | invalidField (field : String) (fault : CoordinateFault)
  | unknownType (text : String)
  | invalidCoordinates (kind : GeoKind) (fault : CoordinateFault)
  | noCoordinates (kind : GeoKind)
  | unexpectedKind (expected found : GeoKind)
  | invalid (kind : GeoKind)
  deriving DecidableEq, Repr

def GeoFault.message : GeoFault → String
  | notJson refusal => "json error: " ++ refusal
  | notObject found => "geometry must be a JSON object, found " ++ found
  | missingField field => "missing field '" ++ field ++ "'"
  | invalidField field fault => "invalid field '" ++ field ++ "': " ++ fault.message
  | unknownType text => "unknown geometry type '" ++ text ++ "'"
  | invalidCoordinates kind fault => "invalid " ++ kind.name ++ " coordinates: " ++ fault.message
  | noCoordinates kind => kind.name ++ " has no coordinates"
  | unexpectedKind expected found => "expected a " ++ expected.name ++ ", found " ++ found.name
  | invalid kind => kind.name ++ " is not a valid geometry"

end RefFrame
