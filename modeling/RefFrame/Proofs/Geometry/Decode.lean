import RefFrame.Geometry.Decode
import RefFrame.Proofs.Fallible
import RefFrame.Proofs.Geometry.Tree
import RefFrame.Proofs.Json.Numbers

/-!
# Reading objects

What it takes for a value to be read as an object, part by part: lists, coordinates, the header, and
the object itself (`GeoJson.parse_eq_ok`). It is said of the object that is read, in both
directions, so that it serves to read back what has been written as well as to see what can come out
of reading.
-/

namespace RefFrame

variable {β : Type} {v : Json} {p : Position Float} {b : List Float}

/-! ## Lists of coordinates -/

namespace Json

variable {f : Json → Except CoordinateFault β} {xs : List β}

theorem listOf?_eq_ok : v.listOf? f = .ok xs ↔ ∃ es, v = .arr es ∧ es.mapM f = .ok xs := by
  cases v <;> simp [listOf?]

theorem forall_of_listOf? {Q : β → Prop}
    (each : ∀ {e x}, e.FiniteNumbers → f e = .ok x → Q x) (finite : v.FiniteNumbers)
    (read : v.listOf? f = .ok xs) : ∀ x ∈ xs, Q x := by
  rcases listOf?_eq_ok.1 read with ⟨es, rfl, elements⟩
  intro x mem
  rcases exists_of_mem_mapM elements mem with ⟨e, element, found⟩
  exact each (finite.of_mem element) found

theorem isFinite_of_coordinate? {x : Float} (finite : v.FiniteNumbers)
    (read : v.coordinate? = .ok x) : x.isFinite = true := by
  cases v <;> cases read
  exact finite

theorem isFinite_of_position? (finite : v.FiniteNumbers) (read : v.position? = .ok p) :
    ∀ x ∈ p, x.isFinite = true :=
  forall_of_listOf? isFinite_of_coordinate? finite read

theorem box?_eq_ok :
    v.box? = .ok b ↔ v.position? = .ok b ∧ b.length % 2 = 0 ∧ 4 ≤ b.length := by
  constructor
  · intro h
    rcases bind_ok_iff.1 h with ⟨b', read, checked⟩
    rcases guard_ok_iff.1 checked with ⟨suits, same⟩
    obtain rfl : b' = b := Except.ok.inj same
    rw [not_or, Coordinates.leastWidth] at suits
    exact ⟨read, by omega, by omega⟩
  · rintro ⟨read, even, long⟩
    refine bind_ok_iff.2 ⟨b, read, guard_ok_iff.2 ⟨?_, rfl⟩⟩
    rw [not_or, Coordinates.leastWidth]
    omega

end Json

/-! ## Coordinates -/

namespace Coordinates

variable {c : Coordinates Float} {kind : GeoKind}

/-- The list of positions that a value holds is read at the depth that its kind has. -/
def ReadFrom (v : Json) : Coordinates Float → Prop
  | point p => v.position? = .ok p
  | multiPoint ps => v.listOf? Json.position? = .ok ps
  | lineString ps => v.listOf? Json.position? = .ok ps
  | multiLineString ls => v.listOf? (Json.listOf? Json.position?) = .ok ls
  | polygon rs => v.listOf? (Json.listOf? Json.position?) = .ok rs
  | multiPolygon gs => v.listOf? (Json.listOf? (Json.listOf? Json.position?)) = .ok gs

theorem ofJson_eq_ok : ofJson kind v = .ok c ↔ c.kind = kind ∧ c.ReadFrom v := by
  cases kind <;> cases c <;>
    simp [ofJson, mapError_ok_iff, map_ok_iff, Coordinates.kind, ReadFrom]

/-- All coordinates are finite. -/
def Finite (c : Coordinates Float) : Prop :=
  ∀ p ∈ c.positions, ∀ x ∈ p, x.isFinite = true

theorem finite_of_readFrom (finite : v.FiniteNumbers) (read : c.ReadFrom v) : c.Finite := by
  have positions : ∀ {v : Json} {ps}, v.FiniteNumbers → v.listOf? Json.position? = .ok ps →
      ∀ p ∈ ps, ∀ x ∈ p, x.isFinite = true :=
    Json.forall_of_listOf? Json.isFinite_of_position?
  have lines : ∀ {v : Json} {ls}, v.FiniteNumbers →
      v.listOf? (Json.listOf? Json.position?) = .ok ls →
      ∀ ps ∈ ls, ∀ p ∈ ps, ∀ x ∈ p, x.isFinite = true :=
    Json.forall_of_listOf? positions
  intro p mem
  cases c with
  | point q =>
      obtain rfl := List.mem_singleton.1 mem
      exact Json.isFinite_of_position? finite read
  | multiPoint ps =>
      exact positions finite read p mem
  | lineString ps =>
      exact positions finite read p mem
  | multiLineString ls =>
      rcases List.mem_flatten.1 mem with ⟨ps, line, inside⟩
      exact lines finite read ps line p inside
  | polygon rs =>
      rcases List.mem_flatten.1 mem with ⟨ps, ring, inside⟩
      exact lines finite read ps ring p inside
  | multiPolygon gs =>
      rcases List.mem_flatten.1 mem with ⟨ps, ring, inside⟩
      rcases List.mem_flatten.1 ring with ⟨rs, polygon, among⟩
      exact Json.forall_of_listOf? lines finite read rs polygon ps among p inside

end Coordinates

/-! ## Objects -/

namespace GeoJson

variable {ms : Members} {t : Tag} {h : Header Float} {expected : GeoKind} {g : GeoJson}

theorem headerOf_eq_ok :
    headerOf t ms = .ok h ↔
      ∃ bbox : Option (List Float),
        (match (Json.obj ms).present? "bbox" with
          | none => bbox = none
          | some v => ∃ b, v.box? = .ok b ∧ bbox = some b) ∧
        h = ⟨t.variant, defaultDimension, bbox, ms.filter fun m => m.1 ∉ t.kind.ownMembers⟩ := by
  rw [headerOf]
  cases (Json.obj ms).present? "bbox" with
  | none =>
      simp only [exists_eq_left]
      exact pure_ok_iff.trans eq_comm
  | some v =>
      constructor
      · intro read
        rcases bind_ok_iff.1 read with ⟨bbox, boxRead, same⟩
        rcases map_ok_iff.1 (mapError_ok_iff.1 boxRead) with ⟨b, found, rfl⟩
        exact ⟨some b, ⟨b, found, rfl⟩, (pure_ok_iff.1 same).symm⟩
      · rintro ⟨bbox, ⟨b, found, rfl⟩, rfl⟩
        exact bind_ok_iff.2 ⟨some b, mapError_ok_iff.2 (map_ok_iff.2 ⟨b, found, rfl⟩), rfl⟩

theorem tag_eq_of_headerOf (kind : g.kind = t.kind) (headed : headerOf t ms = .ok g.header) :
    g.tag = t := by
  rcases headerOf_eq_ok.1 headed with ⟨bbox, -, same⟩
  rw [GeoObject.tag, kind, same]

theorem coordinatesOf_eq_ok {body : Body} :
    coordinatesOf expected ms = .ok body ↔
      ∃ c v, body = .coordinates c ∧ Members.get? ms "coordinates" = some v ∧
        c.kind = expected ∧ c.ReadFrom v := by
  rw [coordinatesOf]
  cases Members.get? ms "coordinates" with
  | none =>
      simp
  | some v =>
      constructor
      · intro read
        rcases map_ok_iff.1 read with ⟨c, found, rfl⟩
        exact ⟨c, v, rfl, rfl, Coordinates.ofJson_eq_ok.1 found⟩
      · rintro ⟨c, v', rfl, same, found⟩
        obtain rfl := Option.some.inj same
        exact map_ok_iff.2 ⟨c, Coordinates.ofJson_eq_ok.2 found, rfl⟩

theorem childrenOf_eq_ok {k : CollectionKind} {body : Body} :
    childrenOf k ms = .ok body ↔
      ∃ values, body = .children k values ∧ Members.get? ms k.field = some (.arr values) := by
  constructor
  · intro read
    rcases exists_of_childrenOf read with ⟨values, found, same⟩
    exact ⟨values, same, found⟩
  · rintro ⟨values, rfl, found⟩
    rw [childrenOf, found]

/-- What members tell of an object of a kind. -/
def Body.ToldBy (ms : Members) (expected : GeoKind) : Body → Prop
  | coordinates c =>
    c.kind = expected ∧ ∃ v, Members.get? ms "coordinates" = some v ∧ c.ReadFrom v
  | children k values => k.kind = expected ∧ Members.get? ms k.field = some (.arr values)
  | geometry value => .feature = expected ∧ (Json.obj ms).present? "geometry" = value

theorem bodyOf_eq_ok {body : Body} :
    bodyOf expected ms = .ok body ↔ body.ToldBy ms expected := by
  cases body with
  | coordinates c =>
      cases expected <;> cases c <;>
        simp [bodyOf, coordinatesOf_eq_ok, childrenOf_eq_ok, Coordinates.kind, Body.ToldBy]
  | children k values =>
      cases expected <;> cases k <;>
        simp [bodyOf, coordinatesOf_eq_ok, childrenOf_eq_ok, CollectionKind.kind, Body.ToldBy,
          eq_comm]
  | geometry value =>
      cases expected <;> simp [bodyOf, coordinatesOf_eq_ok, childrenOf_eq_ok, Body.ToldBy]

theorem parse_obj (ms : Members) :
    parse (.obj ms) = (do
      let t ← tagOf ms
      match ← bodyOf t.kind ms with
      | .coordinates c => return .simple (← headerOf t ms) c
      | .children k values =>
        let gs ← values.mapM parse
        return .collection (← headerOf t ms) k gs
      | .geometry none => return .unlocated (← headerOf t ms) (infoOf ms)
      | .geometry (some value) =>
        let g ← parse value
        return .feature (← headerOf t ms) (infoOf ms) g) := by
  rw [parse]
  cases tagOf ms with
  | error e =>
      rfl
  | ok t =>
      simp only [bind, Except.bind]
      split
      · rename_i e failed
        rw [failed]
        rfl
      · rename_i c read
        rw [read]
      · rename_i k values read
        rw [read]
        simp [List.mapM_subtype (g := parse)]
      · rename_i read
        rw [read]
      · rename_i value read
        rw [read]

/-- What an object has besides its tag and its header is what members say. -/
def HeldBy (ms : Members) : GeoJson → Prop
  | .simple _ c => ∃ v, Members.get? ms "coordinates" = some v ∧ c.ReadFrom v
  | .collection _ k gs =>
    ∃ values, Members.get? ms k.field = some (.arr values) ∧ values.mapM parse = .ok gs
  | .feature _ i g =>
    ∃ value, (Json.obj ms).present? "geometry" = some value ∧ i = infoOf ms ∧ parse value = .ok g
  | .unlocated _ i => (Json.obj ms).present? "geometry" = none ∧ i = infoOf ms

/-- An object is read from the members that hold its tag, its header and what else it has. -/
theorem parse_eq_ok :
    parse v = .ok g ↔
      ∃ ms, v = .obj ms ∧ tagOf ms = .ok g.tag ∧ headerOf g.tag ms = .ok g.header ∧
        HeldBy ms g := by
  cases v with
  | obj ms =>
      rw [parse_obj]
      constructor
      · intro read
        rcases bind_ok_iff.1 read with ⟨t, tagged, rest⟩
        rcases bind_ok_iff.1 rest with ⟨body, told, built⟩
        -- The tag that was read is that of the object, whose kind its body has decided.
        have parsed : ∀ {g : GeoJson}, g.kind = t.kind → headerOf t ms = .ok g.header →
            HeldBy ms g → ∃ ms', Json.obj ms = .obj ms' ∧ tagOf ms' = .ok g.tag ∧
              headerOf g.tag ms' = .ok g.header ∧ HeldBy ms' g := by
          intro g kind headed held
          refine ⟨ms, rfl, ?_, ?_, held⟩ <;> rwa [tag_eq_of_headerOf kind headed]
        cases body with
        | coordinates c =>
            rcases bind_ok_iff.1 built with ⟨h, headed, same⟩
            obtain rfl := pure_ok_iff.1 same
            rcases bodyOf_eq_ok.1 told with ⟨kind, held⟩
            exact parsed kind headed held
        | children k values =>
            rcases bind_ok_iff.1 built with ⟨gs, below, built⟩
            rcases bind_ok_iff.1 built with ⟨h, headed, same⟩
            obtain rfl := pure_ok_iff.1 same
            rcases bodyOf_eq_ok.1 told with ⟨kind, held⟩
            exact parsed kind headed ⟨values, held, below⟩
        | geometry value =>
            rcases bodyOf_eq_ok.1 told with ⟨kind, held⟩
            cases value with
            | none =>
                rcases bind_ok_iff.1 built with ⟨h, headed, same⟩
                obtain rfl := pure_ok_iff.1 same
                exact parsed kind headed ⟨held, rfl⟩
            | some value =>
                rcases bind_ok_iff.1 built with ⟨g, below, built⟩
                rcases bind_ok_iff.1 built with ⟨h, headed, same⟩
                obtain rfl := pure_ok_iff.1 same
                exact parsed kind headed ⟨value, held, rfl, below⟩
      · rintro ⟨ms', same, tagged, headed, held⟩
        obtain rfl := Json.obj.inj same
        refine bind_ok_iff.2 ⟨g.tag, tagged, ?_⟩
        cases g with
        | simple h c =>
            have told : bodyOf c.kind ms = .ok (.coordinates c) := bodyOf_eq_ok.2 ⟨rfl, held⟩
            exact bind_ok_iff.2 ⟨_, told, bind_ok_iff.2 ⟨h, headed, rfl⟩⟩
        | collection h k gs =>
            rcases held with ⟨values, held, below⟩
            have told : bodyOf k.kind ms = .ok (.children k values) :=
              bodyOf_eq_ok.2 ⟨rfl, held⟩
            exact bind_ok_iff.2 ⟨_, told, bind_ok_iff.2 ⟨gs, below, bind_ok_iff.2 ⟨h, headed, rfl⟩⟩⟩
        | feature h i g =>
            rcases held with ⟨value, held, rfl, below⟩
            have told : bodyOf .feature ms = .ok (.geometry (some value)) :=
              bodyOf_eq_ok.2 ⟨rfl, held⟩
            exact bind_ok_iff.2 ⟨_, told, bind_ok_iff.2 ⟨g, below, bind_ok_iff.2 ⟨h, headed, rfl⟩⟩⟩
        | unlocated h i =>
            rcases held with ⟨held, rfl⟩
            have told : bodyOf .feature ms = .ok (.geometry none) := bodyOf_eq_ok.2 ⟨rfl, held⟩
            exact bind_ok_iff.2 ⟨_, told, bind_ok_iff.2 ⟨h, headed, rfl⟩⟩
  | _ =>
      simp [parse]

end GeoJson
end RefFrame
