import RefFrame.Proofs.Geometry.RoundTrip

/-!
# Trees that can be reached

A tree is reached by reading it or building it from finite coordinates, and by changing it
afterwards in any way (`GeoJson.Reachable`). What all such trees have in common (`GeoJson.Orderly`)
is kept by every change: they can be written, and each valid node remembers its dimension. So they
are read back as they were.
-/

namespace RefFrame
namespace GeoJson

open GeoObject

/-- A tree that can be reached from documents and finite coordinates. -/
inductive Reachable : GeoJson → Prop
  | read {v : Json} {g : GeoJson} (finite : v.FiniteNumbers) (read : ofJson v = .ok g) : Reachable g
  | coordinates {c : Coordinates Float} (finite : c.Finite) : Reachable (ofCoordinates c)
  | collection (k : CollectionKind) {gs : List GeoJson} (parts : ∀ g ∈ gs, Reachable g) :
      Reachable (ofChildren k gs)
  | feature (i : FeatureInfo) {geometry : Option GeoJson}
      (part : ∀ g, geometry = some g → Reachable g) : Reachable (ofFeature i geometry)
  | child {g c : GeoJson} (tree : Reachable g) (mem : c ∈ g.children) : Reachable c
  /-- Validity is checked. -/
  | measured {g : GeoJson} (tree : Reachable g) : Reachable g.storeDimensions
  | updateBox {g : GeoJson} (tree : Reachable g) : Reachable g.updateBox
  | setVariant {g : GeoJson} (tree : Reachable g) (w : CrsVariant) : Reachable (g.setVariant w)
  | setCoordinates {g g' : GeoJson} {v : Json} (tree : Reachable g) (finite : v.FiniteNumbers)
      (done : g.setCoordinates v = .ok g') : Reachable g'
  | setPoint {g g' : GeoJson} {p : Position Float} (tree : Reachable g)
      (finite : ∀ x ∈ p, x.isFinite = true) (done : g.setPoint p = .ok g') : Reachable g'
  | setGeometry {g g' : GeoJson} {geometry : Option GeoJson} (tree : Reachable g)
      (part : ∀ c, geometry = some c → Reachable c) (done : g.setGeometry geometry = .ok g') :
      Reachable g'

variable {g g' c : GeoJson} {v : Json} {p : Position Float} {i : FeatureInfo}
  {geometry : Option GeoJson}

/-! ## What is kept -/

/-- A tree that can be written, in which each valid node remembers its dimension. -/
structure Orderly (g : GeoJson) : Prop where
  writable : AllWritable g
  measured : g.storeDimensions = g

theorem orderly_storeDimensions (h : AllWritable g) : Orderly g.storeDimensions where
  writable := allWritable_storeDimensions.2 h
  measured := storeDimensions_storeDimensions g

theorem Orderly.updateBox (h : Orderly g) : Orderly g.updateBox where
  writable := allWritable_updateBox h.writable
  measured := by
    cases boxed : g.isUnboxed with
    | true =>
        rw [updateBox_of_isUnboxed boxed, h.measured]
    | false =>
        rw [updateBox_of_boxed boxed, h.measured, storeDimensions_storeBoxes, h.measured]

theorem orderly_refresh (h : AllWritable g) : Orderly g.refresh :=
  (orderly_storeDimensions h).updateBox

theorem Orderly.setVariant (h : Orderly g) (w : CrsVariant) : Orderly (g.setVariant w) where
  writable :=
    (allWritable_mapHeaders (f := fun h => { h with variant := w }) (fun _ => rfl)
      (fun _ => rfl)).2 h.writable
  measured := by
    rw [storeDimensions_setVariant, h.measured]

theorem Orderly.child (h : Orderly g) (mem : c ∈ g.children) : Orderly c where
  writable := h.writable.child mem
  measured := by
    have same : g.children.map storeDimensions = g.children.map id := by
      rw [← children_storeDimensions, h.measured, List.map_id]
    exact List.map_inj_left.1 same c mem

/-! ## What nodes are made of -/

theorem fits_new (kind : GeoKind) : Fits kind .new := by
  refine ⟨?_, ?_⟩
  · intro b stored
    cases stored
  · intro m mem
    cases mem

theorem allWritable_simple {h : Header Float} {c : Coordinates Float} (fits : Fits c.kind h)
    (finite : c.Finite) : AllWritable (simple h c) := by
  refine allWritable_iff.2 ⟨⟨fits, finite⟩, ?_⟩
  intro g mem
  cases mem

theorem allWritable_collection {h : Header Float} {k : CollectionKind} {gs : List GeoJson}
    (fits : Fits k.kind h) (below : ∀ g ∈ gs, AllWritable g) :
    AllWritable (collection h k gs) := by
  refine allWritable_iff.2 ⟨⟨fits, ?_⟩, below⟩
  intro p mem
  cases mem

theorem allWritable_around {h : Header Float} (fits : Fits .feature h) (i : FeatureInfo)
    (below : ∀ g ∈ geometry, AllWritable g) : AllWritable (around h i geometry) := by
  cases geometry with
  | none =>
      refine allWritable_iff.2 ⟨⟨fits, ?_⟩, ?_⟩
      · intro p mem
        cases mem
      · intro g mem
        cases mem
  | some g =>
      refine allWritable_iff.2 ⟨⟨fits, ?_⟩, ?_⟩
      · intro p mem
        cases mem
      · intro g' mem
        obtain rfl := List.mem_singleton.1 mem
        exact below g' rfl

/-! ## What is done to trees -/

theorem orderly_ofJson (finite : v.FiniteNumbers) (read : ofJson v = .ok g) : Orderly g := by
  rcases map_ok_iff.1 read with ⟨g', read', rfl⟩
  exact orderly_storeDimensions (allWritable_of_parse finite read')

theorem Orderly.setCoordinates (h : Orderly g) (finite : v.FiniteNumbers)
    (done : g.setCoordinates v = .ok g') : Orderly g' := by
  rcases bind_ok_iff.1 done with ⟨c, read, same⟩
  obtain rfl := pure_ok_iff.1 same
  rcases Coordinates.ofJson_eq_ok.1 read with ⟨kind, held⟩
  have fits : Fits c.kind g.header := by
    rw [kind]
    exact (allWritable_iff.1 h.writable).1.header
  exact orderly_refresh (allWritable_simple fits (Coordinates.finite_of_readFrom finite held))

theorem Orderly.setPoint (h : Orderly g) (finite : ∀ x ∈ p, x.isFinite = true)
    (done : g.setPoint p = .ok g') : Orderly g' := by
  have fits := (allWritable_iff.1 h.writable).1.header
  rw [GeoObject.setPoint.eq_def] at done
  split at done
  · obtain rfl := Except.ok.inj done
    refine orderly_refresh (allWritable_simple fits ?_)
    intro q mem
    obtain rfl := List.mem_singleton.1 mem
    exact finite
  · cases done

theorem Orderly.setGeometry (h : Orderly g) (below : ∀ c ∈ geometry, Orderly c)
    (done : g.setGeometry geometry = .ok g') : Orderly g' := by
  have fits := (allWritable_iff.1 h.writable).1.header
  have parts : ∀ c ∈ geometry, AllWritable c := fun c mem => (below c mem).writable
  rw [GeoObject.setGeometry.eq_def] at done
  split at done
  · obtain rfl := Except.ok.inj done
    exact orderly_refresh (allWritable_around fits _ parts)
  · obtain rfl := Except.ok.inj done
    exact orderly_refresh (allWritable_around fits _ parts)
  · cases done

theorem Reachable.orderly (h : Reachable g) : Orderly g := by
  -- By induction on how the tree is reached, with one lemma for each step.
  induction h with
  | read finite read =>
      exact orderly_ofJson finite read
  | coordinates finite =>
      exact orderly_storeDimensions (allWritable_simple (fits_new _) finite)
  | collection k parts ih =>
      have below := fun g mem => (ih g mem).writable
      exact orderly_storeDimensions (allWritable_collection (fits_new _) below)
  | feature i part ih =>
      have below := fun g mem => (ih g mem).writable
      exact orderly_storeDimensions (allWritable_around (fits_new _) i below)
  | child tree mem ih =>
      exact ih.child mem
  | measured tree ih =>
      exact orderly_storeDimensions ih.writable
  | updateBox tree ih =>
      exact ih.updateBox
  | setVariant tree w ih =>
      exact ih.setVariant w
  | setCoordinates tree finite done ih =>
      exact ih.setCoordinates finite done
  | setPoint tree finite done ih =>
      exact ih.setPoint finite done
  | setGeometry tree part done ih below =>
      exact ih.setGeometry below done

/-! ## Reading back -/

theorem dimension_of_orderly {d : Nat} (h : Orderly g) (known : g.dimension? = some d) :
    g.header.dimension = d := by
  rw [← h.measured]
  exact dimension_storeDimensions known

theorem Orderly.node? {path : List Nat} {n : GeoJson} (h : Orderly g)
    (found : g.node? path = some n) : Orderly n := by
  induction path generalizing g with
  | nil =>
      obtain rfl := Option.some.inj found
      exact h
  | cons i path ih =>
      rcases Option.bind_eq_some_iff.1 found with ⟨c, child, below⟩
      exact ih (h.child (List.mem_of_getElem? child)) below

/-- Every tree that can be reached is read back as it was, and in the tree that is read each node
that is valid has the dimension that it had. The boxes in a tree that can be reached are boxes, and
its members without a meaning bear no name that has one. -/
theorem Reachable.ofJson_toJson (h : Reachable g) :
    (∃ g', ofJson (toJson g) = .ok g' ∧ g'.withoutDimensions = g.withoutDimensions ∧
      ∀ path n, g.node? path = some n → n.isValid = true →
        ∃ n', g'.node? path = some n' ∧ n'.header.dimension = n.header.dimension) ∧
    ∀ n ∈ g.flatten,
      (∀ b, n.header.bbox = some b → b.length % 2 = 0 ∧ 4 ≤ b.length) ∧
      ∀ m ∈ n.header.foreign, m.1 ∉ n.kind.ownMembers := by
  have orderly := h.orderly
  refine ⟨⟨_, ofJson_toJson_of_writable orderly.writable, ?_, ?_⟩, ?_⟩
  · rw [withoutDimensions_storeDimensions, withoutDimensions_withoutDimensions]
  · intro path n found valid
    rcases Option.isSome_iff_exists.1 valid with ⟨d, known⟩
    have there : g.withoutDimensions.storeDimensions.node? path =
        some n.withoutDimensions.storeDimensions := by
      rw [node?_of_children children_storeDimensions, withoutDimensions,
        node?_of_children (children_mapHeaders _), found]
      rfl
    have known' : n.withoutDimensions.dimension? = some d := by
      rw [withoutDimensions, dimension?_mapHeaders, known]
    refine ⟨_, there, ?_⟩
    rw [dimension_storeDimensions known', dimension_of_orderly (orderly.node? found) known]
  · intro n below
    have fits := (orderly.writable n below).header
    refine ⟨?_, fits.foreign⟩
    intro b stored
    rcases fits.box b stored with ⟨even, long, -⟩
    exact ⟨even, long⟩

/-! ## A tree that is read, changed and put together -/

/-- A point in the plane, with a member of its own. -/
def wellhead : Json :=
  .obj [("name", .str "A-1"), ("type", .str "Point"),
    ("coordinates", .arr [.num (.float 1.5), .num (.int 2)])]

/-- The point when it has been moved into space. -/
def moved : GeoJson :=
  (simple ⟨.geoJson, 2, none, [("name", .str "A-1")]⟩ (.point [3, 4, 5])).refresh

/-- A feature at that place, which waits to be converted. -/
def well : GeoJson :=
  (ofFeature ⟨.null, some (.num (.int 7))⟩ (some moved)).updateBox.setVariant .anyCrs

theorem reachable_moved : Reachable moved := by
  have parsed : parse wellhead = .ok
      (simple ⟨.geoJson, 3, none, [("name", .str "A-1")]⟩ (.point [1.5, Float.ofInt 2])) :=
    parse_eq_ok.2 ⟨_, rfl, rfl, rfl, _, rfl, rfl⟩
  have read : ofJson wellhead = .ok
      (simple ⟨.geoJson, 2, none, [("name", .str "A-1")]⟩ (.point [1.5, Float.ofInt 2])) := by
    rw [ofJson, parsed]
    rfl
  have finite : wellhead.FiniteNumbers := ⟨trivial, trivial, ⟨rfl, rfl, trivial⟩, trivial⟩
  exact .setPoint (.read finite read) (by decide) rfl

theorem reachable_well : Reachable well := by
  refine .setVariant (.updateBox (.feature _ ?_)) .anyCrs
  intro g same
  obtain rfl := Option.some.inj same
  exact reachable_moved

theorem ofJson_toJson_well :
    Reachable well ∧ well.header.bbox = some [3, 4, 5, 3, 4, 5] ∧
      (∃ g', ofJson (toJson well) = .ok g' ∧ g'.withoutDimensions = well.withoutDimensions ∧
        ∃ n', g'.node? [0] = some n' ∧ n'.header.dimension = 3) ∧
      ∀ n ∈ well.flatten, ∀ m ∈ n.header.foreign, m.1 ∉ n.kind.ownMembers := by
  rcases Reachable.ofJson_toJson reachable_well with ⟨⟨g', read, same, dimensions⟩, nodes⟩
  rcases dimensions [0] _ rfl rfl with ⟨n', there, dimension⟩
  exact ⟨reachable_well, rfl, ⟨g', read, same, n', there, dimension⟩, fun n mem => (nodes n mem).2⟩

end GeoJson
end RefFrame
