import RefFrame.Geometry.Dimension
import RefFrame.Geometry.Fault
import RefFrame.Json.Printer
import RefFrame.Json.Reader

/-!
# Reading GeoJSON objects

A value is read as the kind of object that its tag names: first its own members, then its bounding
box, and all members without a meaning are kept. The first fault decides. Afterwards every valid
node knows its dimension.
-/

namespace RefFrame

def Json.listOf? {β : Type} (f : Json → Except CoordinateFault β) :
    Json → Except CoordinateFault (List β)
  | .arr es => es.mapM f
  | other => .error (.notArray other.kindName)

/-- Reads a coordinate, which may be a whole number. -/
def Json.coordinate? : Json → Except CoordinateFault Float
  | .num n => .ok n.toFloat
  | other => .error (.notNumber other.kindName)

def Json.position? : Json → Except CoordinateFault (Position Float) :=
  Json.listOf? Json.coordinate?

/-- Reads a bounding box: at least two axes, and as many coordinates above as below. -/
def Json.box? (v : Json) : Except CoordinateFault (List Float) := do
  let box ← v.position?
  if box.length < 2 * Coordinates.leastWidth ∨ box.length % 2 ≠ 0 then
    throw (.boxLength box.length)
  return box

namespace Coordinates

/-- Reads the coordinates of a kind of geometry; each kind has its own depth of nesting. -/
def ofJson (kind : GeoKind) (v : Json) : Except GeoFault (Coordinates Float) :=
  let checked {β : Type} (build : β → Coordinates Float) (read : Except CoordinateFault β) :=
    (read.map build).mapError (GeoFault.invalidCoordinates kind)
  match kind with
  | .point => checked point v.position?
  | .multiPoint => checked multiPoint (v.listOf? Json.position?)
  | .lineString => checked lineString (v.listOf? Json.position?)
  | .multiLineString => checked multiLineString (v.listOf? (Json.listOf? Json.position?))
  | .polygon => checked polygon (v.listOf? (Json.listOf? Json.position?))
  | .multiPolygon =>
    checked multiPolygon (v.listOf? (Json.listOf? (Json.listOf? Json.position?)))
  | .geometryCollection | .feature | .featureCollection => .error (.noCoordinates kind)

end Coordinates

namespace GeoJson

def tagOf (ms : Members) : Except GeoFault Tag :=
  match ms.get? "type" with
  | none => .error (.missingField "type")
  | some (.str text) =>
    match Tag.ofText? text with
    | some t => .ok t
    | none => .error (.unknownType text)
  | some other => .error (.unknownType other.compact)

def headerOf (t : Tag) (ms : Members) : Except GeoFault (Header Float) := do
  let bbox ←
    match (Json.obj ms).present? "bbox" with
    | none => pure none
    | some v => (v.box?.map some).mapError (GeoFault.invalidField "bbox")
  return {
    variant := t.variant
    dimension := defaultDimension
    bbox
    foreign := ms.filter fun m => m.1 ∉ t.kind.ownMembers }

def infoOf (ms : Members) : FeatureInfo :=
  ⟨(ms.get? "properties").getD .null, ms.get? "id"⟩

/-- The members of an object that are its own, before what is below it has been read. -/
inductive Body
  | coordinates (c : Coordinates Float)
  | children (k : CollectionKind) (values : List Json)
  | geometry (value : Option Json)

/-- The children of a collection, before they have been read. -/
def childrenOf (k : CollectionKind) (ms : Members) : Except GeoFault Body :=
  match Members.get? ms k.field with
  | none => .error (.missingField k.field)
  | some (.arr values) => .ok (.children k values)
  | some other => .error (.invalidField k.field (.notArray other.kindName))

def coordinatesOf (kind : GeoKind) (ms : Members) : Except GeoFault Body :=
  match Members.get? ms "coordinates" with
  | none => .error (.missingField "coordinates")
  | some v => (Coordinates.ofJson kind v).map .coordinates

def bodyOf (kind : GeoKind) (ms : Members) : Except GeoFault Body :=
  match kind with
  | .geometryCollection => childrenOf .geometries ms
  | .featureCollection => childrenOf .features ms
  | .feature => .ok (.geometry ((Json.obj ms).present? "geometry"))
  | kind => coordinatesOf kind ms

/-! ### What is below an object is smaller -/

theorem sizeOf_lt_of_get? {ms : Members} {k : String} {v : Json}
    (h : Members.get? ms k = some v) : sizeOf v < sizeOf ms := by
  induction ms with
  | nil => simp [Members.get?] at h
  | cons m ms ih =>
    obtain ⟨k', v'⟩ := m
    simp only [Members.get?, List.lookup_cons] at h
    split at h
    · simp only [Option.some.injEq] at h
      subst h
      simp
      omega
    · have := ih h
      simp
      omega

theorem sizeOf_lt_of_present? {ms : Members} {k : String} {v : Json}
    (h : (Json.obj ms).present? k = some v) : sizeOf v < sizeOf ms := by
  unfold Json.present? at h
  split at h
  · simp at h
  · exact sizeOf_lt_of_get? (k := k) (by simpa [Json.member?] using h)

theorem exists_of_childrenOf {k : CollectionKind} {ms : Members} {b : Body}
    (h : childrenOf k ms = .ok b) :
    ∃ values, Members.get? ms k.field = some (.arr values) ∧ b = .children k values := by
  unfold childrenOf at h
  split at h
  · simp at h
  · rename_i values found
    exact ⟨values, found, by simpa using h.symm⟩
  · simp at h

theorem exists_of_coordinatesOf {kind : GeoKind} {ms : Members} {b : Body}
    (h : coordinatesOf kind ms = .ok b) : ∃ c, b = .coordinates c := by
  unfold coordinatesOf at h
  split at h
  · simp at h
  · rename_i v _
    cases hc : Coordinates.ofJson kind v with
    | error e => simp [hc, Except.map] at h
    | ok c => exact ⟨c, by simpa [hc, Except.map] using h.symm⟩

theorem sizeOf_children_lt {kind : GeoKind} {ms : Members} {k : CollectionKind}
    {values : List Json} (h : bodyOf kind ms = .ok (.children k values)) :
    sizeOf values < sizeOf ms := by
  have inside : ∀ k', childrenOf k' ms = .ok (.children k values) →
      sizeOf values < sizeOf ms := by
    intro k' h'
    obtain ⟨values', found, same⟩ := exists_of_childrenOf h'
    have below := sizeOf_lt_of_get? found
    simp only [Body.children.injEq] at same
    obtain ⟨-, rfl⟩ := same
    simp at below
    omega
  unfold bodyOf at h
  split at h
  · exact inside _ h
  · exact inside _ h
  · simp at h
  · simpa using exists_of_coordinatesOf h

theorem sizeOf_geometry_lt {kind : GeoKind} {ms : Members} {v : Json}
    (h : bodyOf kind ms = .ok (.geometry (some v))) : sizeOf v < sizeOf ms := by
  unfold bodyOf at h
  split at h
  · simpa using exists_of_childrenOf h
  · simpa using exists_of_childrenOf h
  · exact sizeOf_lt_of_present? (by simpa using h)
  · simpa using exists_of_coordinatesOf h

/-- Reads an object and all below it; no dimension is known yet. -/
def parse (v : Json) : Except GeoFault GeoJson :=
  match v with
  | .obj ms => do
    let t ← tagOf ms
    match _ : bodyOf t.kind ms with
    | .error e => throw e
    | .ok (.coordinates c) => return .simple (← headerOf t ms) c
    | .ok (.children k values) =>
      -- A fault below comes before one in the bounding box.
      let gs ← values.attach.mapM fun ⟨value, _⟩ => parse value
      return .collection (← headerOf t ms) k gs
    | .ok (.geometry none) => return .unlocated (← headerOf t ms) (infoOf ms)
    | .ok (.geometry (some value)) =>
      let g ← parse value
      return .feature (← headerOf t ms) (infoOf ms) g
  | other => .error (.notObject other.kindName)
termination_by sizeOf v
decreasing_by
  · have below := sizeOf_children_lt ‹_›
    have := List.sizeOf_lt_of_mem ‹_ ∈ values›
    simp
    omega
  · have below := sizeOf_geometry_lt ‹_›
    simp
    omega

def ofJson (v : Json) : Except GeoFault GeoJson :=
  (parse v).map GeoObject.storeDimensions

def ofText [JsonLibrary] (text : String) : Except GeoFault GeoJson :=
  match Json.read? text with
  | some v => ofJson v
  | none => .error (.notJson (JsonLibrary.refusal text))

end GeoJson
end RefFrame
