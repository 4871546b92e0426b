import RefFrame.Geometry.Dimension
import RefFrame.Proofs.Geometry.Tree

/-!
# Dimensions of trees

The dimension of a tree does not depend on what its headers say (`dimension?_mapHeaders`). It is two
at least, and no part of the tree and none of its positions has fewer axes. Storing the dimensions
changes nothing else, and storing them again changes nothing.
-/

namespace RefFrame

variable {α : Type}

/-! ## Least numbers -/

theorem foldl_min_le (ns : List Nat) (m : Nat) :
    ns.foldl min m ≤ m ∧ ∀ n ∈ ns, ns.foldl min m ≤ n := by
  induction ns generalizing m with
  | nil =>
      simp
  | cons n ns ih =>
      rcases ih (min m n) with ⟨start, later⟩
      refine ⟨Nat.le_trans start (Nat.min_le_left m n), ?_⟩
      intro n' mem
      rcases List.mem_cons.1 mem with rfl | mem
      · exact Nat.le_trans start (Nat.min_le_right m n')
      · exact later n' mem

theorem leastDimension_le {ns : List Nat} {n : Nat} (mem : n ∈ ns) : leastDimension ns ≤ n := by
  cases ns with
  | nil =>
      cases mem
  | cons m ns =>
      rcases foldl_min_le ns m with ⟨start, later⟩
      rcases List.mem_cons.1 mem with rfl | mem
      · exact start
      · exact later n mem

theorem le_foldl_min {ns : List Nat} {b m : Nat} (start : b ≤ m) (later : ∀ n ∈ ns, b ≤ n) :
    b ≤ ns.foldl min m := by
  induction ns generalizing m with
  | nil =>
      exact start
  | cons n ns ih =>
      refine ih (Nat.le_min.2 ⟨start, later n List.mem_cons_self⟩) ?_
      intro n' mem
      exact later n' (List.mem_cons_of_mem n mem)

theorem two_le_leastDimension {ns : List Nat} (h : ∀ n ∈ ns, 2 ≤ n) : 2 ≤ leastDimension ns := by
  cases ns with
  | nil =>
      decide
  | cons n ns =>
      refine le_foldl_min (h n List.mem_cons_self) ?_
      intro n' mem
      exact h n' (List.mem_cons_of_mem n mem)

namespace Coordinates

variable {c : Coordinates α} {p : Position α} {d : Nat}

theorem dimension?_eq_some :
    c.dimension? = some d ↔
      c.isValid = true ∧ leastDimension (c.positions.map List.length) = d := by
  simp [dimension?]

/-- Each position of valid coordinates has two axes at least. -/
theorem two_le_length (valid : c.isValid = true) (mem : p ∈ c.positions) : 2 ≤ p.length := by
  have wide_mem : ∀ {ps : List (Position α)}, wide ps = true → p ∈ ps → 2 ≤ p.length := by
    intro ps wide mem
    exact of_decide_eq_true (List.all_eq_true.1 wide p mem)
  cases c with
  | point q =>
      exact wide_mem valid mem
  | multiPoint ps =>
      exact wide_mem (Bool.and_eq_true_iff.1 valid).2 mem
  | lineString ps =>
      exact wide_mem (Bool.and_eq_true_iff.1 valid).2 mem
  | multiLineString ls =>
      rcases List.mem_flatten.1 mem with ⟨ps, line, inside⟩
      have each := List.all_eq_true.1 (Bool.and_eq_true_iff.1 valid).2 ps line
      exact wide_mem (Bool.and_eq_true_iff.1 each).2 inside
  | polygon rs =>
      rcases List.mem_flatten.1 mem with ⟨ps, ring, inside⟩
      have each := List.all_eq_true.1 valid ps ring
      exact wide_mem (Bool.and_eq_true_iff.1 each).2 inside
  | multiPolygon gs =>
      rcases List.mem_flatten.1 mem with ⟨ps, ring, inside⟩
      have each := List.all_eq_true.1 valid ps ring
      exact wide_mem (Bool.and_eq_true_iff.1 each).2 inside

theorem two_le_dimension? (h : c.dimension? = some d) : 2 ≤ d := by
  rcases dimension?_eq_some.1 h with ⟨valid, rfl⟩
  apply two_le_leastDimension
  intro n mem
  rcases List.mem_map.1 mem with ⟨p, position, rfl⟩
  exact two_le_length valid position

theorem dimension?_le_length (h : c.dimension? = some d) (mem : p ∈ c.positions) :
    d ≤ p.length := by
  rcases dimension?_eq_some.1 h with ⟨-, rfl⟩
  exact leastDimension_le (List.mem_map_of_mem mem)

end Coordinates

namespace GeoObject

variable {g c : GeoObject α} {gs : List (GeoObject α)} {h : Header α} {k : CollectionKind}
  {d : Nat} {ds : List Nat}

/-! ## What a tree's dimension says -/

theorem isValid_eq_true : g.isValid = true ↔ ∃ d, g.dimension? = some d :=
  Option.isSome_iff_exists

theorem isValid_eq_false : g.isValid = false ↔ g.dimension? = none := by
  rw [isValid]
  cases g.dimension? <;> simp

theorem dimensions?_cons :
    dimensions? (g :: gs) = some ds ↔
      ∃ d ds', g.dimension? = some d ∧ dimensions? gs = some ds' ∧ ds = d :: ds' := by
  rw [dimensions?]
  cases g.dimension? <;> cases dimensions? gs <;> simp [eq_comm]

theorem dimension?_of_mem (known : dimensions? gs = some ds) (mem : g ∈ gs) :
    ∃ d ∈ ds, g.dimension? = some d := by
  induction gs generalizing ds with
  | nil =>
      cases mem
  | cons first gs ih =>
      rcases dimensions?_cons.1 known with ⟨d, ds', here, later, rfl⟩
      rcases List.mem_cons.1 mem with rfl | below
      · exact ⟨d, List.mem_cons_self, here⟩
      · rcases ih later below with ⟨d', among, found⟩
        exact ⟨d', List.mem_cons_of_mem d among, found⟩

theorem mem_of_dimensions? (known : dimensions? gs = some ds) (mem : d ∈ ds) :
    ∃ g ∈ gs, g.dimension? = some d := by
  induction gs generalizing ds with
  | nil =>
      cases known
      cases mem
  | cons first gs ih =>
      rcases dimensions?_cons.1 known with ⟨d', ds', here, later, rfl⟩
      rcases List.mem_cons.1 mem with rfl | below
      · exact ⟨first, List.mem_cons_self, here⟩
      · rcases ih later below with ⟨g, among, found⟩
        exact ⟨g, List.mem_cons_of_mem first among, found⟩

theorem dimension?_collection :
    (collection h k gs).dimension? = some d ↔
      ∃ ds, dimensions? gs = some ds ∧ leastDimension ds = d := by
  simp [dimension?]

/-- All that a valid tree consists of is valid, and has no fewer axes. -/
theorem dimension?_child (known : g.dimension? = some d) (mem : c ∈ g.children) :
    ∃ d', c.dimension? = some d' ∧ d ≤ d' := by
  cases g with
  | simple h c =>
      cases mem
  | collection h k gs =>
      rcases dimension?_collection.1 known with ⟨ds, each, rfl⟩
      rcases dimension?_of_mem each mem with ⟨d', among, found⟩
      exact ⟨d', found, leastDimension_le among⟩
  | feature h i g =>
      obtain rfl := List.mem_singleton.1 mem
      exact ⟨d, known, Nat.le_refl d⟩
  | unlocated h i =>
      cases known

theorem two_le_dimension? (known : g.dimension? = some d) : 2 ≤ d := by
  induction g using treeInduction generalizing d with
  | simple h c =>
      exact Coordinates.two_le_dimension? known
  | collection h k gs ih =>
      rcases dimension?_collection.1 known with ⟨ds, each, rfl⟩
      apply two_le_leastDimension
      intro n among
      rcases mem_of_dimensions? each among with ⟨g, mem, found⟩
      exact ih g mem found
  | feature h i g ih =>
      exact ih known
  | unlocated h i =>
      cases known

theorem dimensions?_map {f : GeoObject α → GeoObject α}
    (same : ∀ g ∈ gs, (f g).dimension? = g.dimension?) :
    dimensions? (gs.map f) = dimensions? gs := by
  induction gs with
  | nil =>
      rfl
  | cons g gs ih =>
      have later : dimensions? (gs.map f) = dimensions? gs :=
        ih fun g' mem => same g' (List.mem_cons_of_mem g mem)
      simp only [List.map_cons, dimensions?, same g List.mem_cons_self, later]

/-- Headers have no say in the dimension. -/
@[simp] theorem dimension?_mapHeaders (f : Header α → Header α) (g : GeoObject α) :
    (g.mapHeaders f).dimension? = g.dimension? := by
  induction g using treeInduction with
  | simple h c =>
      rfl
  | collection h k gs ih =>
      simp only [mapHeaders, mapHeadersAll_eq, dimension?, dimensions?_map ih]
  | feature h i g ih =>
      exact ih
  | unlocated h i =>
      rfl

theorem dimension?_eq_of_mapHeaders {g g' : GeoObject α} {f f' : Header α → Header α}
    (same : g.mapHeaders f = g'.mapHeaders f') : g.dimension? = g'.dimension? := by
  rw [← dimension?_mapHeaders f g, same, dimension?_mapHeaders]

/-! ## Storing the dimensions -/

theorem storeAllDimensions_eq (gs : List (GeoObject α)) :
    storeAllDimensions gs = gs.map storeDimensions := by
  induction gs with
  | nil =>
      rfl
  | cons g gs ih =>
      rw [storeAllDimensions, ih, List.map_cons]

theorem children_storeDimensions (g : GeoObject α) :
    g.storeDimensions.children = g.children.map storeDimensions := by
  cases g <;> simp [storeDimensions, children, storeAllDimensions_eq]

theorem header_storeDimensions (g : GeoObject α) :
    g.storeDimensions.header = g.withDimension g.header := by
  cases g <;> rfl

@[simp] theorem kind_storeDimensions (g : GeoObject α) : g.storeDimensions.kind = g.kind := by
  cases g <;> rfl

@[simp] theorem bbox_storeDimensions (g : GeoObject α) :
    g.storeDimensions.header.bbox = g.header.bbox := by
  rw [header_storeDimensions]
  rfl

theorem dimension_storeDimensions (known : g.dimension? = some d) :
    g.storeDimensions.header.dimension = d := by
  rw [header_storeDimensions, withDimension, known]
  rfl

/-- A change of headers that sees no dimension does not see that dimensions are stored. -/
theorem mapHeaders_storeDimensions {f : Header α → Header α}
    (blind : ∀ (h : Header α) (d : Nat), f { h with dimension := d } = f h) (g : GeoObject α) :
    g.storeDimensions.mapHeaders f = g.mapHeaders f := by
  -- What is stored at a node depends on the tree below, but `f` looks at the header alone.
  induction g using treeInduction with
  | simple h c =>
      simp only [storeDimensions, mapHeaders, withDimension, blind]
  | collection h k gs ih =>
      have below : gs.map (mapHeaders f ∘ storeDimensions) = gs.map (mapHeaders f) :=
        List.map_congr_left ih
      simp only [storeDimensions, storeAllDimensions_eq, mapHeaders, mapHeadersAll_eq, withDimension,
        blind, List.map_map, below]
  | feature h i g ih =>
      simp only [storeDimensions, mapHeaders, withDimension, blind, ih]
  | unlocated h i =>
      rfl

/-- The tree without what it remembers of its dimensions. -/
def withoutDimensions (g : GeoObject α) : GeoObject α :=
  g.mapHeaders fun h => { h with dimension := defaultDimension }

@[simp] theorem withoutDimensions_withoutDimensions (g : GeoObject α) :
    g.withoutDimensions.withoutDimensions = g.withoutDimensions :=
  mapHeaders_mapHeaders _ _ g

@[simp] theorem withoutDimensions_storeDimensions (g : GeoObject α) :
    g.storeDimensions.withoutDimensions = g.withoutDimensions :=
  mapHeaders_storeDimensions (fun _ _ => rfl) g

@[simp] theorem dimension?_storeDimensions (g : GeoObject α) :
    g.storeDimensions.dimension? = g.dimension? :=
  dimension?_eq_of_mapHeaders (withoutDimensions_storeDimensions g)

@[simp] theorem storeDimensions_storeDimensions (g : GeoObject α) :
    g.storeDimensions.storeDimensions = g.storeDimensions := by
  induction g using treeInduction with
  | simple h c =>
      cases known : c.dimension? <;> simp [storeDimensions, withDimension, dimension?, known]
  | collection h k gs ih =>
      have below : gs.map (storeDimensions ∘ storeDimensions) = gs.map storeDimensions :=
        List.map_congr_left ih
      have ours : ∀ h', (collection h' k (gs.map storeDimensions)).dimension? =
          (collection h k gs).dimension? := by
        intro h'
        simp only [dimension?, dimensions?_map fun g _ => dimension?_storeDimensions g]
      simp only [storeDimensions, storeAllDimensions_eq, List.map_map, below, withDimension, ours]
      cases (collection h k gs).dimension? <;> rfl
  | feature h i g ih =>
      have ours : ∀ h', (feature h' i g.storeDimensions).dimension? = (feature h i g).dimension? :=
        fun _ => dimension?_storeDimensions g
      simp only [storeDimensions, ih, withDimension, ours]
      cases (feature h i g).dimension? <;> rfl
  | unlocated h i =>
      rfl

/-- In a valid tree every node is valid, and nothing depends on what the nodes remember. -/
theorem storeDimensions_withoutDimensions (known : g.dimension? = some d) :
    g.withoutDimensions.storeDimensions = g.storeDimensions := by
  induction g using treeInduction generalizing d with
  | simple h c =>
      have ours : c.dimension? = some d := known
      simp [withoutDimensions, mapHeaders, storeDimensions, withDimension, dimension?, ours]
  | collection h k gs ih =>
      have below : gs.map (storeDimensions ∘ mapHeaders fun h => { h with
          dimension := defaultDimension }) = gs.map storeDimensions := by
        refine List.map_congr_left ?_
        intro g mem
        rcases dimension?_child known mem with ⟨d', known', -⟩
        exact ih g mem known'
      have ours : ∀ h', (collection h' k (gs.map (mapHeaders fun h => { h with
          dimension := defaultDimension }))).dimension? = some d := by
        intro h'
        rw [← known, dimension?, dimension?, dimensions?_map fun g _ => dimension?_mapHeaders _ g]
      simp only [withoutDimensions, mapHeaders, mapHeadersAll_eq, storeDimensions,
        storeAllDimensions_eq, List.map_map, below, withDimension, ours, known]
      rfl
  | feature h i g ih =>
      have below := ih known
      have ours : ∀ h', (feature h' i g.withoutDimensions).dimension? = some d :=
        fun _ => (dimension?_mapHeaders _ g).trans known
      rw [withoutDimensions] at below ours
      simp only [withoutDimensions, mapHeaders, storeDimensions, below, withDimension, ours, known]
      rfl
  | unlocated h i =>
      cases known

/-- Dimensions are stored before or after a change of headers that has nothing to do with them. -/
theorem storeDimensions_mapHeaders {f : Header α → Header α}
    (apart : ∀ (h : Header α) (d : Nat), f { h with dimension := d } = { f h with dimension := d })
    (keeps : ∀ h, (f h).dimension = h.dimension) (g : GeoObject α) :
    (g.mapHeaders f).storeDimensions = g.storeDimensions.mapHeaders f := by
  have entered : ∀ (g : GeoObject α) (h : Header α),
      f (g.withDimension h) = (g.mapHeaders f).withDimension (f h) := by
    intro g h
    rw [withDimension, withDimension, dimension?_mapHeaders, apart, keeps]
  induction g using treeInduction with
  | simple h c =>
      simp only [mapHeaders, storeDimensions, entered]
  | collection h k gs ih =>
      have below : gs.map (storeDimensions ∘ mapHeaders f) = gs.map (mapHeaders f ∘ storeDimensions) :=
        List.map_congr_left ih
      simp only [mapHeaders, mapHeadersAll_eq, storeDimensions, storeAllDimensions_eq, entered,
        List.map_map, below]
  | feature h i g ih =>
      simp only [mapHeaders, storeDimensions, entered, ih]
  | unlocated h i =>
      rfl

theorem storeDimensions_setVariant (v : CrsVariant) (g : GeoObject α) :
    (g.setVariant v).storeDimensions = g.storeDimensions.setVariant v :=
  storeDimensions_mapHeaders (f := fun h => { h with variant := v }) (fun _ _ => rfl)
    (fun _ => rfl) g

end GeoObject
end RefFrame
