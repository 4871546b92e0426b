import RefFrame.Json.Location
import RefFrame.PropertyPath.Basic

/-!
# What a path addresses

Resolving a path finds the values it addresses, each with its location, in document order. A
segment goes into a member of an object and along its indices. Before the next segment an object is
entered as it is, and an array at each of its elements, so a path without indices addresses a
property of every element.
-/

namespace RefFrame

/-- A value found in a tree, with its place. -/
structure Match where
  location : Location
  value : Json
  deriving Repr

def Match.under (above : Location) (m : Match) : Match :=
  { m with location := above ++ m.location }

namespace Segment

def steps (s : Segment) : Location :=
  .key s.key :: s.indices.map .index

end Segment

namespace PropertyPath

/-- Where the next segment may start below a value: at an object itself, at each element of an
array, and nowhere on other values. -/
def entries (v : Json) : List Match :=
  match v with
  | .obj _ => [⟨[], v⟩]
  | .arr es => es.zipIdx.map fun (e, i) => ⟨[.index i], e⟩
  | _ => []

/-- The values that segments address, the first one from the tree itself. -/
def resolveFrom (s : Segment) (more : List Segment) (t : Json) : List Match :=
  -- All indices of the segment have to lead somewhere.
  match t.get? s.steps with
  | none => []
  | some v =>
    match more with
    | [] => [⟨s.steps, v⟩]
    | s' :: more' =>
      (entries v).flatMap fun e =>
        (resolveFrom s' more' e.value).map fun m => m.under (s.steps ++ e.location)

def resolve (p : PropertyPath) (t : Json) : List Match :=
  resolveFrom p.first p.rest t

end PropertyPath

namespace Json

/-- The values that the path with a given text addresses; a text that is no path addresses none. -/
def matchesOf (t : Json) (path : String) : List Match :=
  match PropertyPath.parse path with
  | .ok p => p.resolve t
  | .error _ => []

/-- Writes a value to every location in turn, passing over those that are not there. -/
def replaceAll (t : Json) (locations : List Location) (v : Json) : Json :=
  locations.foldl (fun t l => (t.replace? l v).getD t) t

end Json
end RefFrame
