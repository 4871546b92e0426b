import RefFrame.Proofs.Geometry.BoundingBox
import RefFrame.Proofs.Geometry.Coordinates

/-!
# Replacing what a node holds

The coordinates of a geometry, the position of a point and the geometry of a feature can be replaced
(`Setter`). That is done on the node itself, step by step (`Setter.perform`): what is given is read, it is
put in, and then dimensions and boxes are brought up to date. All that can fail comes before the first
change.

A replacement succeeds exactly if it suits the node. Then nothing is new but what the node holds and
what it remembers of it, and that is what a new node would remember (`Setter.apply_renews`).
-/

namespace RefFrame

namespace GeoObject

variable {α : Type} {g g' : GeoObject α}

/-! ## What is left when dimensions and boxes are forgotten -/

/-- Trees that differ in their dimensions and boxes at most have all else in common. -/
theorem common_of_withoutCaches (same : g'.withoutCaches = g.withoutCaches) :
    g'.kind = g.kind ∧ g'.header.variant = g.header.variant ∧
      g'.header.foreign = g.header.foreign ∧ g'.coordinates? = g.coordinates? ∧
      g'.info? = g.info? ∧ g'.children.map withoutCaches = g.children.map withoutCaches := by
  have kind := congrArg GeoObject.kind same
  have variant := congrArg (fun g => g.header.variant) same
  have foreign := congrArg (fun g => g.header.foreign) same
  have coordinates := congrArg coordinates? same
  have info := congrArg info? same
  have children := congrArg GeoObject.children same
  simp only [withoutCaches, kind_mapHeaders] at kind
  simp only [withoutCaches, header_mapHeaders] at variant foreign
  simp only [withoutCaches, coordinates?_mapHeaders] at coordinates
  simp only [withoutCaches, info?_mapHeaders] at info
  simp only [withoutCaches, children_mapHeaders] at children
  exact ⟨kind, variant, foreign, coordinates, info, children⟩

/-! ## Nodes behind other headers -/

theorem isUnboxed_of_kind (kind : g.kind ≠ .featureCollection) : g.isUnboxed = false := by
  simp [isUnboxed, kind]

theorem kind_withHeader (h : Header α) (g : GeoObject α) : (g.withHeader h).kind = g.kind := by
  cases g <;> rfl

theorem dimension?_withHeader (h : Header α) (g : GeoObject α) :
    (g.withHeader h).dimension? = g.dimension? := by
  cases g <;> rfl

section Refresh

variable [Min α] [Max α]

/-! ## Bringing a node up to date -/

@[simp] theorem withoutCaches_refresh (g : GeoObject α) : g.refresh.withoutCaches = g.withoutCaches := by
  rw [refresh, withoutCaches_updateBox]
  exact mapHeaders_storeDimensions (fun _ _ => rfl) g

@[simp] theorem isValid_refresh (g : GeoObject α) : g.refresh.isValid = g.isValid := by
  rw [isValid, isValid, dimension?_eq_of_mapHeaders (withoutCaches_refresh g)]

/-! What header it had before matters for the box of a feature collection only. -/

theorem refresh_eq (kind : g.kind ≠ .featureCollection) :
    g.refresh = g.storeDimensions.storeBoxes := by
  have boxed : g.storeDimensions.isUnboxed = false := by
    rw [isUnboxed_storeDimensions, isUnboxed_of_kind kind]
  rw [refresh, updateBox_of_boxed boxed, storeDimensions_storeDimensions]

theorem bbox_refresh_of_invalid (kind : g.kind ≠ .featureCollection) (invalid : g.isValid = false) :
    g.refresh.header.bbox = none := by
  have unknown : g.storeDimensions.dimension? = none := by
    rw [dimension?_storeDimensions, isValid_eq_false.1 invalid]
  rw [refresh_eq kind, storeBoxes_of_invalid unknown]
  cases g.storeDimensions <;> rfl

theorem dimension_refresh_withHeader (kind : g.kind ≠ .featureCollection) (valid : g.isValid = true)
    (h : Header α) : (g.withHeader h).refresh.header.dimension = g.refresh.header.dimension := by
  rcases isValid_eq_true.1 valid with ⟨d, known⟩
  have known' : (g.withHeader h).dimension? = some d := by
    rw [dimension?_withHeader, known]
  rw [refresh_eq kind, refresh_eq (by rwa [kind_withHeader]), dimension_storeBoxes,
    dimension_storeBoxes, dimension_storeDimensions known, dimension_storeDimensions known']

theorem bbox_refresh_withHeader (kind : g.kind ≠ .featureCollection) (h : Header α) :
    (g.withHeader h).refresh.header.bbox = g.refresh.header.bbox := by
  rw [refresh_eq kind, refresh_eq (by rwa [kind_withHeader])]
  cases g with
  | simple h' c =>
      rfl
  | collection h' k gs =>
      have geometries : k ≠ .features := by
        rintro rfl
        exact kind rfl
      simp only [withHeader, storeDimensions, storeBoxes, geometries, false_and, if_false, dimension?]
      cases dimensions? (storeAllDimensions gs) <;> rfl
  | feature h' i c =>
      simp only [withHeader, storeDimensions, storeBoxes]
      cases c.storeDimensions.dimension? <;> rfl
  | unlocated h' i =>
      rfl

end Refresh

end GeoObject

open GeoObject

/-! ## Setters -/

/-- A replacement of what a node holds, with what it is to hold. -/
inductive Setter
  /-- The coordinates of a geometry, in their JSON form. -/
  | coordinates (v : Json)
  | point (p : Position Float)
  | geometry (part : Option GeoJson)

namespace Setter

def apply (s : Setter) (g : GeoJson) : Except GeoFault GeoJson :=
  match s with
  | coordinates v => g.setCoordinates v
  | point p => g.setPoint p
  | geometry part => g.setGeometry part

/-- Puts another node in the place of the node, brings the dimensions up to date, and then the boxes. -/
def renew (n : GeoJson) : EStateM GeoFault GeoJson Unit := do
  set n
  modify storeDimensions
  modify updateBox

/-- A setter at work on the node itself. -/
def perform : Setter → EStateM GeoFault GeoJson Unit
  | coordinates v => do
    let g ← get
    -- All positions are read before the first one is put in.
    match Coordinates.ofJson g.kind v with
    | .ok c => renew (simple g.header c)
    | .error e => throw e
  | point p => do
    match ← get with
    | simple h (.point _) => renew (simple h (.point p))
    | other => throw (.unexpectedKind .point other.kind)
  | geometry part => do
    match ← get with
    | feature h i _ => renew (around h i part)
    | unlocated h i => renew (around h i part)
    | other => throw (.unexpectedKind .feature other.kind)

/-- What is given is of the kind of the node. -/
def Suits (g : GeoJson) : Setter → Prop
  | coordinates v => ∃ depth, g.kind.depth? = some depth ∧ v.NumbersAt depth
  | point _ => g.kind = .point
  | geometry _ => g.kind = .feature

/-- The node holds what was given; below it dimensions and boxes may have changed. -/
def HeldBy (g : GeoJson) : Setter → Prop
  | coordinates v => ∃ c, g.coordinates? = some c ∧ c.toJson = v.inFloats
  | point p => g.coordinates? = some (.point p)
  | geometry part => g.children.map withoutCaches = part.toList.map withoutCaches

/-- A node newly built around what is given, of the kind of another node and, if it is a feature, with
the same properties and identifier. -/
inductive Built (g : GeoJson) : Setter → GeoJson → Prop
  | coordinates {v : Json} {c : Coordinates Float} (kind : c.kind = g.kind)
      (same : c.toJson = v.inFloats) : Built g (.coordinates v) (ofCoordinates c)
  | point (p : Position Float) : Built g (.point p) (ofCoordinates (.point p))
  | geometry (part : Option GeoJson) {i : FeatureInfo} (info : g.info? = some i) :
      Built g (.geometry part) (ofFeature i part)

/-- What has become of a node. -/
structure Renewed (s : Setter) (g g' : GeoJson) : Prop where
  kind : g'.kind = g.kind
  variant : g'.header.variant = g.header.variant
  foreign : g'.header.foreign = g.header.foreign
  info : g'.info? = g.info?
  content : s.HeldBy g'
  /-- Dimension and box of a valid node are those of a new one. -/
  asBuilt : g'.isValid = true → ∃ fresh, Built g s fresh ∧
    g'.header.dimension = fresh.updateBox.header.dimension ∧
    g'.header.bbox = fresh.updateBox.header.bbox
  unboxed : g'.isValid = false → g'.header.bbox = none

variable {s : Setter} {g g' n : GeoJson}

/-! ## What is put in -/

/-- The node with what is given in place of what it held. -/
inductive Puts (g : GeoJson) : Setter → GeoJson → Prop
  | coordinates {v : Json} {c : Coordinates Float} (kind : c.kind = g.kind) (read : c.ReadFrom v) :
      Puts g (.coordinates v) (simple g.header c)
  | point (p : Position Float) (kind : g.kind = .point) :
      Puts g (.point p) (simple g.header (.point p))
  | geometry (part : Option GeoJson) {i : FeatureInfo} (info : g.info? = some i) :
      Puts g (.geometry part) (around g.header i part)

theorem exists_info?_iff : (∃ i, g.info? = some i) ↔ g.kind = .feature := by
  cases g with
  | simple h c =>
      cases c <;> simp [info?, GeoObject.kind, Coordinates.kind]
  | collection h k gs =>
      cases k <;> simp [info?, GeoObject.kind, CollectionKind.kind]
  | _ =>
      simp [info?, GeoObject.kind]

theorem info?_of_coordinates {c : Coordinates Float} (kind : c.kind = g.kind) : g.info? = none := by
  apply Option.eq_none_iff_forall_ne_some.2
  intro i info
  have feature := kind.trans (exists_info?_iff.1 ⟨i, info⟩)
  cases c <;> cases feature

theorem puts_coordinates_iff {v : Json} :
    Puts g (.coordinates v) n ↔
      ∃ c, Coordinates.ofJson g.kind v = .ok c ∧ simple g.header c = n := by
  constructor
  · intro puts
    cases puts with
    | coordinates kind read =>
        exact ⟨_, Coordinates.ofJson_eq_ok.2 ⟨kind, read⟩, rfl⟩
  · rintro ⟨c, read, rfl⟩
    rcases Coordinates.ofJson_eq_ok.1 read with ⟨kind, read⟩
    exact .coordinates kind read

theorem exists_puts_iff : (∃ n, Puts g s n) ↔ s.Suits g := by
  cases s with
  | coordinates v =>
      refine Iff.trans ?_ Coordinates.exists_ofJson_iff
      constructor
      · rintro ⟨n, puts⟩
        rcases puts_coordinates_iff.1 puts with ⟨c, read, -⟩
        exact ⟨c, read⟩
      · rintro ⟨c, read⟩
        exact ⟨_, puts_coordinates_iff.2 ⟨c, read, rfl⟩⟩
  | point p =>
      constructor
      · rintro ⟨n, puts⟩
        cases puts with
        | point p kind =>
            exact kind
      · intro kind
        exact ⟨_, .point p kind⟩
  | geometry part =>
      refine Iff.trans ?_ exists_info?_iff
      constructor
      · rintro ⟨n, puts⟩
        cases puts with
        | geometry part info =>
            exact ⟨_, info⟩
      · rintro ⟨i, info⟩
        exact ⟨_, .geometry part info⟩

/-- A setter makes of a node what it puts in, brought up to date. -/
theorem apply_eq_ok : s.apply g = .ok g' ↔ ∃ n, Puts g s n ∧ n.refresh = g' := by
  cases s with
  | coordinates v =>
      refine bind_ok_iff.trans ?_
      constructor
      · rintro ⟨c, read, done⟩
        exact ⟨_, puts_coordinates_iff.2 ⟨c, read, rfl⟩, pure_ok_iff.1 done⟩
      · rintro ⟨n, puts, rfl⟩
        rcases puts_coordinates_iff.1 puts with ⟨c, read, rfl⟩
        exact ⟨c, read, rfl⟩
  | point p =>
      constructor
      · intro done
        rw [apply, GeoObject.setPoint.eq_def] at done
        split at done
        · exact ⟨_, .point p rfl, Except.ok.inj done⟩
        · cases done
      · rintro ⟨n, puts, rfl⟩
        cases puts with
        | point p kind =>
            cases g with
            | simple h c =>
                cases c <;> first | rfl | cases kind
            | collection h k gs =>
                cases k <;> cases kind
            | _ =>
                cases kind
  | geometry part =>
      constructor
      · intro done
        rw [apply, GeoObject.setGeometry.eq_def] at done
        split at done
        · exact ⟨_, .geometry part rfl, Except.ok.inj done⟩
        · exact ⟨_, .geometry part rfl, Except.ok.inj done⟩
        · cases done
      · rintro ⟨n, puts, rfl⟩
        cases puts with
        | geometry part info =>
            cases g <;> cases info <;> rfl

/-! ## What becomes of the node -/

theorem Puts.header (puts : Puts g s n) : n.header = g.header := by
  cases puts with
  | geometry part info =>
      cases part <;> rfl
  | _ =>
      rfl

theorem Puts.kind (puts : Puts g s n) : n.kind = g.kind := by
  cases puts with
  | coordinates kind read =>
      exact kind
  | point p kind =>
      exact kind.symm
  | geometry part info =>
      rw [exists_info?_iff.1 ⟨_, info⟩]
      cases part <;> rfl

/-- No setter works on a feature collection, whose box would be left out. -/
theorem Puts.kind_ne (puts : Puts g s n) : n.kind ≠ .featureCollection := by
  cases puts with
  | coordinates kind read =>
      rename_i c
      cases c <;> exact nofun
  | point p kind =>
      exact nofun
  | geometry part info =>
      cases part <;> exact nofun

theorem Puts.info (puts : Puts g s n) : n.info? = g.info? := by
  cases puts with
  | geometry part info =>
      rw [info]
      cases part <;> rfl
  | coordinates kind read =>
      exact (info?_of_coordinates kind).symm
  | point p kind =>
      exact (info?_of_coordinates (c := .point p) kind.symm).symm

theorem Puts.heldBy (puts : Puts g s n) : s.HeldBy n.refresh := by
  rcases common_of_withoutCaches (withoutCaches_refresh n) with ⟨-, -, -, coordinates, -, children⟩
  cases puts with
  | coordinates kind read =>
      exact ⟨_, coordinates, Coordinates.toJson_of_readFrom read⟩
  | point p kind =>
      exact coordinates
  | geometry part info =>
      refine children.trans ?_
      cases part <;> rfl

theorem Puts.exists_built (puts : Puts g s n) :
    ∃ fresh, Built g s fresh ∧ fresh.updateBox = (n.withHeader .new).refresh := by
  cases puts with
  | coordinates kind read =>
      exact ⟨_, .coordinates kind (Coordinates.toJson_of_readFrom read), rfl⟩
  | point p kind =>
      exact ⟨_, .point p, rfl⟩
  | geometry part info =>
      refine ⟨_, .geometry part info, ?_⟩
      cases part <;> rfl

theorem Puts.renewed (puts : Puts g s n) : Renewed s g n.refresh := by
  -- Bringing the node up to date touches dimensions and boxes only, so all else is what was put in.
  rcases common_of_withoutCaches (withoutCaches_refresh n) with ⟨kind, variant, foreign, -, info, -⟩
  refine ⟨kind.trans puts.kind, ?_, ?_, info.trans puts.info, puts.heldBy, ?_, ?_⟩
  · rw [variant, puts.header]
  · rw [foreign, puts.header]
  · intro valid
    rw [isValid_refresh] at valid
    rcases puts.exists_built with ⟨fresh, built, same⟩
    refine ⟨fresh, built, ?_, ?_⟩
    · rw [same, dimension_refresh_withHeader puts.kind_ne valid]
    · rw [same, bbox_refresh_withHeader puts.kind_ne]
  · intro invalid
    rw [isValid_refresh] at invalid
    exact bbox_refresh_of_invalid puts.kind_ne invalid

/-! ## Work on the node itself -/

theorem run_renew (n g : GeoJson) : (renew n).run g = .ok () n.refresh :=
  rfl

/-- What a change comes to that is made on the node itself: a refused one leaves the node as it was. -/
def outcome (g : GeoJson) : Except GeoFault GeoJson → EStateM.Result GeoFault GeoJson Unit
  | .ok g' => .ok () g'
  | .error e => .error e g

theorem run_perform (s : Setter) (g : GeoJson) : s.perform.run g = outcome g (s.apply g) := by
  cases s with
  | coordinates v =>
      cases read : Coordinates.ofJson g.kind v with
      | error e =>
          have refused : (coordinates v).apply g = .error e := by
            rw [apply, setCoordinates, read]
            rfl
          rw [refused]
          simp [perform, read, outcome]
      | ok c =>
          have done : (coordinates v).apply g = .ok (simple g.header c).refresh := by
            rw [apply, setCoordinates, read]
            rfl
          rw [done]
          simp [perform, read, outcome, run_renew]
  | point p =>
      cases g with
      | simple h c =>
          cases c <;> rfl
      | _ =>
          rfl
  | geometry part =>
      cases g <;> rfl

/-- A setter succeeds exactly if what is given suits the node. If it fails, the node is as it was; if it
succeeds, the node holds what was given, has been brought up to date, and is otherwise as it was. -/
theorem apply_renews (s : Setter) (g : GeoJson) :
    ((∃ g', s.apply g = .ok g') ↔ s.Suits g) ∧
      (∀ e, s.apply g = .error e → s.perform.run g = .error e g) ∧
      ∀ g', s.apply g = .ok g' → s.perform.run g = .ok () g' ∧ Renewed s g g' := by
  refine ⟨?_, ?_, ?_⟩
  · rw [← exists_puts_iff]
    constructor
    · rintro ⟨g', done⟩
      rcases apply_eq_ok.1 done with ⟨n, puts, -⟩
      exact ⟨n, puts⟩
    · rintro ⟨n, puts⟩
      exact ⟨n.refresh, apply_eq_ok.2 ⟨n, puts, rfl⟩⟩
  · intro e refused
    rw [run_perform, refused, outcome]
  · intro g' done
    rcases apply_eq_ok.1 done with ⟨n, puts, same⟩
    refine ⟨?_, same ▸ puts.renewed⟩
    rw [run_perform, done, outcome]

/-- A point in the plane, in another reference system. -/
def pinned : GeoJson :=
  simple ⟨.anyCrs, 2, some [0.5, 1.5, 0.5, 1.5], [("name", .str "A-1")]⟩ (.point [0.5, 1.5])

/-- The second coordinate is no number, so the first one is not put in either. -/
theorem apply_renews_pinned :
    (∃ g', (coordinates (.arr [.num (.float 2.5), .num (.float 3.5), .num (.float 4.5)])).perform.run
        pinned = .ok () g' ∧
      g'.header = ⟨.anyCrs, 3, some [2.5, 3.5, 4.5, 2.5, 3.5, 4.5], [("name", .str "A-1")]⟩ ∧
      Renewed (coordinates (.arr [.num (.float 2.5), .num (.float 3.5), .num (.float 4.5)]))
        pinned g') ∧
    (coordinates (.arr [.num (.float 2.5), .str "3.5"])).perform.run pinned =
      .error (.invalidCoordinates .point (.notNumber "string")) pinned := by
  constructor
  · rcases (apply_renews (coordinates (.arr [.num (.float 2.5), .num (.float 3.5), .num (.float 4.5)]))
      pinned).2.2 _ rfl with ⟨run, renewed⟩
    exact ⟨_, run, rfl, renewed⟩
  · exact (apply_renews (coordinates (.arr [.num (.float 2.5), .str "3.5"])) pinned).2.1 _ rfl

end Setter
end RefFrame
