import RefFrame.Geometry.Encode
import RefFrame.Proofs.FallibleLists
import RefFrame.Proofs.Geometry.Decode

/-!
# Values that hold coordinates

Coordinates are read from arrays that are nested as deep as their kind asks for, with numbers at the
bottom (`Coordinates.exists_ofJson_iff`). What is written of them is the value that they were read
from, with its numbers as floats (`Coordinates.toJson_of_readFrom`).
-/

namespace RefFrame

variable {α β ε : Type}

namespace Json

/-! ## Numbers in nested arrays -/

mutual

/-- The value with the numbers in its arrays, at any depth, read as floats. -/
def inFloats : Json → Json
  | num n => ofFloat n.toFloat
  | arr es => arr (inFloatsAll es)
  | other => other

/-- `inFloats` of every element. -/
def inFloatsAll : List Json → List Json
  | [] => []
  | e :: es => inFloats e :: inFloatsAll es

end

/-- Arrays nested to a depth, with numbers at the bottom; at any level an array may be empty. -/
def NumbersAt : Nat → Json → Prop
  | 0, v => ∃ n, v = num n
  | depth + 1, v => ∃ es, v = arr es ∧ ∀ e ∈ es, NumbersAt depth e

variable {v : Json} {f : Json → Except CoordinateFault β} {write : β → Json} {xs : List β}
  {p : Position Float} {b : List Float} {depth : Nat}

theorem inFloatsAll_eq (es : List Json) : inFloatsAll es = es.map inFloats := by
  induction es with
  | nil =>
      rfl
  | cons e es ih =>
      rw [inFloatsAll, ih, List.map_cons]

theorem coordinate?_eq_ok {x : Float} : v.coordinate? = .ok x ↔ ∃ n, v = num n ∧ n.toFloat = x := by
  cases v <;> simp [coordinate?]

theorem exists_coordinate?_iff : (∃ x, v.coordinate? = .ok x) ↔ v.NumbersAt 0 := by
  constructor
  · rintro ⟨x, read⟩
    rcases coordinate?_eq_ok.1 read with ⟨n, same, -⟩
    exact ⟨n, same⟩
  · rintro ⟨n, same⟩
    exact ⟨n.toFloat, coordinate?_eq_ok.2 ⟨n, same, rfl⟩⟩

theorem exists_listOf?_iff (each : ∀ e, (∃ x, f e = .ok x) ↔ e.NumbersAt depth) (v : Json) :
    (∃ xs, v.listOf? f = .ok xs) ↔ v.NumbersAt (depth + 1) := by
  constructor
  · rintro ⟨xs, read⟩
    rcases listOf?_eq_ok.1 read with ⟨es, same, elements⟩
    exact ⟨es, same, fun e mem => (each e).1 (exists_mapM_ok_iff.1 ⟨xs, elements⟩ e mem)⟩
  · rintro ⟨es, same, below⟩
    rcases exists_mapM_ok_iff.2 fun e mem => (each e).2 (below e mem) with ⟨xs, elements⟩
    exact ⟨xs, listOf?_eq_ok.2 ⟨es, same, elements⟩⟩

theorem exists_position?_iff (v : Json) : (∃ p, v.position? = .ok p) ↔ v.NumbersAt 1 :=
  exists_listOf?_iff (fun _ => exists_coordinate?_iff) v

/-- A list is written as it was read, but for its numbers, if its elements are. -/
theorem ofList_of_listOf? (each : ∀ {e x}, f e = .ok x → write x = e.inFloats)
    (read : v.listOf? f = .ok xs) : ofList write xs = v.inFloats := by
  rcases listOf?_eq_ok.1 read with ⟨es, rfl, elements⟩
  have same : xs.map write = es.map inFloats := by
    have pairs := mapM_ok_iff.1 elements
    clear read elements
    induction pairs with
    | nil =>
        rfl
    | cons first rest ih =>
        rw [List.map_cons, List.map_cons, each first, ih]
  rw [ofList, same, inFloats, inFloatsAll_eq]

theorem ofPosition_of_position? (read : v.position? = .ok p) : ofPosition p = v.inFloats := by
  refine ofList_of_listOf? ?_ read
  intro e x read
  rcases coordinate?_eq_ok.1 read with ⟨n, rfl, rfl⟩
  rfl

theorem ofPosition_of_box? (read : v.box? = .ok b) : ofPosition b = v.inFloats :=
  ofPosition_of_position? (box?_eq_ok.1 read).1

end Json

/-! ## Coordinates -/

/-- How deep the arrays are nested that hold the coordinates of a kind, if it has coordinates. -/
def GeoKind.depth? : GeoKind → Option Nat
  | point => some 1
  | multiPoint | lineString => some 2
  | multiLineString | polygon => some 3
  | multiPolygon => some 4
  | geometryCollection | feature | featureCollection => none

namespace Coordinates

variable {c : Coordinates Float} {kind : GeoKind} {v : Json}

/-- Coordinates are written as they were read, but for their numbers. -/
theorem toJson_of_readFrom (read : c.ReadFrom v) : c.toJson = v.inFloats := by
  have points : ∀ {v : Json} {ps}, v.listOf? Json.position? = .ok ps →
      Json.ofList .ofPosition ps = v.inFloats :=
    Json.ofList_of_listOf? Json.ofPosition_of_position?
  have lines : ∀ {v : Json} {ls}, v.listOf? (Json.listOf? Json.position?) = .ok ls →
      Json.ofList (.ofList .ofPosition) ls = v.inFloats :=
    Json.ofList_of_listOf? points
  cases c with
  | point p =>
      exact Json.ofPosition_of_position? read
  | multiPoint ps =>
      exact points read
  | lineString ps =>
      exact points read
  | multiLineString ls =>
      exact lines read
  | polygon rs =>
      exact lines read
  | multiPolygon gs =>
      exact Json.ofList_of_listOf? lines read

/-- A value is read as the coordinates of a kind exactly if the kind has coordinates and the value is
nested as deep as they are. -/
theorem exists_ofJson_iff :
    (∃ c, ofJson kind v = .ok c) ↔ ∃ depth, kind.depth? = some depth ∧ v.NumbersAt depth := by
  have points := Json.exists_listOf?_iff Json.exists_position?_iff
  have lines := Json.exists_listOf?_iff points
  have polygons := Json.exists_listOf?_iff lines
  -- What is read by a kind is put into its own constructor, whose fields are what its reader gives.
  have checked : ∀ {β : Type} {build : β → Coordinates Float} {read : Except CoordinateFault β}
      {depth : Nat}, ((∃ x, read = .ok x) ↔ v.NumbersAt depth) →
      ((∃ c, (read.map build).mapError (GeoFault.invalidCoordinates kind) = .ok c) ↔
        ∃ depth', some depth = some depth' ∧ v.NumbersAt depth') := by
    intro β build read depth readable
    simp only [mapError_ok_iff, map_ok_iff, Option.some.injEq, exists_eq_left', ← readable]
    exact ⟨fun ⟨c, x, found, _⟩ => ⟨x, found⟩, fun ⟨x, found⟩ => ⟨build x, x, found, rfl⟩⟩
  cases kind with
  | point =>
      exact checked (Json.exists_position?_iff v)
  | multiPoint =>
      exact checked (points v)
  | lineString =>
      exact checked (points v)
  | multiLineString =>
      exact checked (lines v)
  | polygon =>
      exact checked (lines v)
  | multiPolygon =>
      exact checked (polygons v)
  | _ =>
      exact iff_of_false (fun ⟨_, read⟩ => nomatch read) fun ⟨_, known, _⟩ => nomatch known

end Coordinates
end RefFrame
