import RefFrame.Json.Fields
import RefFrame.Record.Batch

/-!
# The JSON forms of outcomes

Outcomes, summaries, counts and the choice of passes are written as JSON and read back.
-/

namespace RefFrame

namespace Status

/-- The JSON form of an outcome: its name. -/
def toJson (s : Status) : Json :=
  .str s.text

/-- Reads an outcome, from its name or from an object with its name as the only key and nothing
under it. -/
def ofJson? : Json → Option Status
  | .str s => ofText? s
  | .obj [(s, .null)] => ofText? s
  | _ => none

end Status

namespace Summary

/-- The JSON form of a summary; a record without an identifier shows none. -/
def toJson (s : Summary) : Json :=
  let id := match s.id with
    | some id => [("id", Json.str id)]
    | none => []
  .obj (id ++ [("status", s.status.toJson), ("errors", .arr (s.errors.map Json.str))])

def ofJson? (v : Json) : Option Summary := do
  let f ← Fields.of? 3 v
  let id ← f.orElseNamed 0 "id" none (Json.nullable? Json.text?)
  let status ← f.required 1 "status" Status.ofJson?
  let errors ← f.required 2 "errors" (Json.list? Json.text?)
  return ⟨id, status, errors⟩

end Summary

namespace Counts

def toJson (c : Counts) : Json :=
  .obj [("total", .ofNat c.total), ("success", .ofNat c.success), ("error", .ofNat c.error),
    ("no_frame_of_reference", .ofNat c.noFrame)]

def ofJson? (v : Json) : Option Counts := do
  let f ← Fields.of? 4 v
  let total ← f.required 0 "total" Json.count?
  let success ← f.required 1 "success" Json.count?
  let error ← f.required 2 "error" Json.count?
  let noFrame ← f.required 3 "no_frame_of_reference" Json.count?
  return ⟨total, success, error, noFrame⟩

end Counts

namespace Passes

def toJson (p : Passes) : Json :=
  .obj [("units", .bool p.units), ("dates", .bool p.dates)]

def ofJson? (v : Json) : Option Passes := do
  let f ← Fields.of? 2 v
  let units ← f.required 0 "units" Json.bool?
  let dates ← f.required 1 "dates" Json.bool?
  return ⟨units, dates⟩

end Passes
end RefFrame
