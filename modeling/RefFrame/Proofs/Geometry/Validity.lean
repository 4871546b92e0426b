import Mathlib.Order.Bounds.Basic
import RefFrame.Proofs.Geometry.Dimension

/-!
# Which trees are valid, and what their dimensions are

A tree is valid exactly if each of its nodes keeps the rule of its own kind (`GeoObject.KeepsRule`),
and its dimension is then the least of what its leaves count for (`GeoObject.leafDimensions`). Storing
the dimensions enters that number at every valid node, wherever it stands, and nothing else.
-/

namespace RefFrame

variable {α : Type}

/-! ## Least numbers -/

theorem foldl_min_mem (ns : List Nat) (m : Nat) : ns.foldl min m = m ∨ ns.foldl min m ∈ ns := by
  induction ns generalizing m with
  | nil =>
      exact .inl rfl
  | cons n ns ih =>
      rcases ih (min m n) with start | later
      · rcases Nat.le_total m n with small | small
        · exact .inl (start.trans (Nat.min_eq_left small))
        · exact .inr (List.mem_cons.2 (.inl (start.trans (Nat.min_eq_right small))))
      · exact .inr (List.mem_cons_of_mem n later)

theorem leastDimension_mem {ns : List Nat} (some_number : ns ≠ []) : leastDimension ns ∈ ns := by
  cases ns with
  | nil =>
      exact absurd rfl some_number
  | cons n ns =>
      rcases foldl_min_mem ns n with first | later
      · exact List.mem_cons.2 (.inl first)
      · exact List.mem_cons_of_mem n later

/-! ## The rules of the kinds -/

namespace Coordinates

variable {c : Coordinates α} {d : Nat}

def Wide (ps : List (Position α)) : Prop :=
  ∀ p ∈ ps, 2 ≤ p.length

def IsLine (ps : List (Position α)) : Prop :=
  ps ≠ [] ∧ Wide ps

def IsRing (ps : List (Position α)) : Prop :=
  4 ≤ ps.length ∧ Wide ps

/-- The rule for the coordinates of each kind. -/
def KeepsRule : Coordinates α → Prop
  | point p => 2 ≤ p.length
  | multiPoint ps => IsLine ps
  | lineString ps => IsLine ps
  | multiLineString ls => ls ≠ [] ∧ ∀ ps ∈ ls, IsLine ps
  | polygon rs => ∀ ps ∈ rs, IsRing ps
  | multiPolygon gs => ∀ rs ∈ gs, ∀ ps ∈ rs, IsRing ps

theorem wide_eq_true {ps : List (Position α)} : wide ps = true ↔ Wide ps := by
  simp only [wide, List.all_eq_true, decide_eq_true_eq]
  exact Iff.rfl

theorem line_eq_true {ps : List (Position α)} : (ps ≠ [] && wide ps) = true ↔ IsLine ps := by
  simp only [Bool.and_eq_true, decide_eq_true_eq, wide_eq_true]
  exact Iff.rfl

theorem ring_eq_true {ps : List (Position α)} :
    (leastRing ≤ ps.length && wide ps) = true ↔ IsRing ps := by
  simp only [Bool.and_eq_true, decide_eq_true_eq, wide_eq_true]
  exact Iff.rfl

theorem isValid_eq_true : c.isValid = true ↔ c.KeepsRule := by
  cases c with
  | point p =>
      exact wide_eq_true.trans List.forall_mem_singleton
  | multiPoint ps =>
      exact line_eq_true
  | lineString ps =>
      exact line_eq_true
  | multiLineString ls =>
      rw [isValid, Bool.and_eq_true, decide_eq_true_eq, List.all_eq_true]
      exact and_congr_right fun _ => forall₂_congr fun ps _ => line_eq_true
  | polygon rs =>
      simp only [isValid, KeepsRule, List.all_eq_true, ring_eq_true]
  | multiPolygon gs =>
      -- The rings of all polygons are looked at in one row.
      rw [isValid, List.all_eq_true]
      constructor
      · intro each rs polygon ps ring
        exact ring_eq_true.1 (each ps (List.mem_flatten.2 ⟨rs, polygon, ring⟩))
      · intro each ps mem
        rcases List.mem_flatten.1 mem with ⟨rs, polygon, ring⟩
        exact ring_eq_true.2 (each rs polygon ps ring)

/-- Only areas may have no positions. -/
theorem kind_of_positions_eq_nil (rule : c.KeepsRule) (none : c.positions = []) :
    c.kind = .polygon ∨ c.kind = .multiPolygon := by
  cases c with
  | point p =>
      cases none
  | multiPoint ps =>
      exact absurd none rule.1
  | lineString ps =>
      exact absurd none rule.1
  | multiLineString ls =>
      rcases List.exists_mem_of_ne_nil ls rule.1 with ⟨ps, line⟩
      exact absurd (List.flatten_eq_nil_iff.1 none ps line) (rule.2 ps line).1
  | polygon rs =>
      exact .inl rfl
  | multiPolygon gs =>
      exact .inr rfl

/-- The lengths of the positions. -/
def widths (c : Coordinates α) : Set Nat :=
  {w | ∃ p ∈ c.positions, p.length = w}

theorem isLeast_widths (known : c.dimension? = some d) (some_position : c.positions ≠ []) :
    IsLeast c.widths d := by
  rcases dimension?_eq_some.1 known with ⟨-, rfl⟩
  have lengths : c.positions.map List.length ≠ [] := by
    rwa [ne_eq, List.map_eq_nil_iff]
  refine ⟨List.mem_map.1 (leastDimension_mem lengths), ?_⟩
  rintro w ⟨p, position, rfl⟩
  exact leastDimension_le (List.mem_map_of_mem position)

end Coordinates

namespace GeoObject

variable {g n : GeoObject α} {gs : List (GeoObject α)} {h : Header α} {k : CollectionKind}
  {d w : Nat}

/-- The rule that a node has to keep by itself, whatever is below it. -/
def KeepsRule : GeoObject α → Prop
  | simple _ c => c.KeepsRule
  | collection _ _ _ => True
  | feature _ _ _ => True
  | unlocated _ _ => False

/-! ## Validity -/

theorem isValid_collection : (collection h k gs).isValid = true ↔ ∀ g ∈ gs, g.isValid = true := by
  have all : (dimensions? gs).isSome = true ↔ ∀ g ∈ gs, g.isValid = true := by
    induction gs with
    | nil =>
        simp [dimensions?]
    | cons g gs ih =>
        rw [List.forall_mem_cons, ← ih, isValid, dimensions?]
        cases g.dimension? <;> cases dimensions? gs <;> simp
  rw [isValid, dimension?, Option.isSome_map, all]

/-- A tree is valid if each of its nodes keeps its rule. -/
theorem isValid_iff (g : GeoObject α) : g.isValid = true ↔ ∀ n ∈ g.flatten, n.KeepsRule := by
  induction g using treeInduction with
  | simple h c =>
      have own : (simple h c).isValid = true ↔ c.KeepsRule := by
        rw [← Coordinates.isValid_eq_true, isValid, dimension?, Coordinates.dimension?]
        cases c.isValid <;> simp
      rw [own, forall_mem_flatten]
      exact (and_iff_left fun c mem => absurd mem List.not_mem_nil).symm
  | collection h k gs ih =>
      rw [isValid_collection, forall_mem_flatten]
      exact ⟨fun valid => ⟨trivial, fun g mem => (ih g mem).1 (valid g mem)⟩,
        fun rules g mem => (ih g mem).2 (rules.2 g mem)⟩
  | feature h i g ih =>
      have below : (feature h i g).isValid = g.isValid := rfl
      rw [below, ih, forall_mem_flatten (g := feature h i g)]
      exact ⟨fun rules => ⟨trivial, List.forall_mem_singleton.2 rules⟩,
        fun rules => List.forall_mem_singleton.1 rules.2⟩
  | unlocated h i =>
      exact iff_of_false Bool.false_ne_true fun rules => rules _ (List.mem_singleton_self _)

/-! ## Dimensions -/

/-- What a leaf counts for: the length of its shortest position, or three if it is an area without
positions or a collection of nothing. -/
inductive LeafDimension : GeoObject α → Nat → Prop
  | shortest {h : Header α} {c : Coordinates α} {d : Nat} (least : IsLeast c.widths d) :
      LeafDimension (simple h c) d
  | area {h : Header α} {c : Coordinates α} (kind : c.kind = .polygon ∨ c.kind = .multiPolygon)
      (none : c.positions = []) : LeafDimension (simple h c) 3
  | nothing {h : Header α} {k : CollectionKind} : LeafDimension (collection h k []) 3

/-- What the leaves of a tree count for. -/
def leafDimensions (g : GeoObject α) : Set Nat :=
  {d | ∃ n ∈ g.flatten, LeafDimension n d}

theorem leafDimension_simple {c : Coordinates α} (known : c.dimension? = some d) :
    LeafDimension (simple h c) w ↔ w = d := by
  rcases Coordinates.dimension?_eq_some.1 known with ⟨valid, least⟩
  by_cases none : c.positions = []
  · -- Nothing can be counted, so that the dimension is the default.
    have default : d = 3 := by
      rw [← least, none]
      rfl
    have kind := Coordinates.kind_of_positions_eq_nil (Coordinates.isValid_eq_true.1 valid) none
    constructor
    · rintro (⟨⟨⟨p, position, -⟩, -⟩⟩ | ⟨-, -⟩)
      · rw [none] at position
        cases position
      · exact default.symm
    · rintro rfl
      exact default ▸ .area kind none
  · have shortest := Coordinates.isLeast_widths known none
    constructor
    · rintro (⟨other⟩ | ⟨-, none'⟩)
      · exact other.unique shortest
      · exact absurd none' none
    · rintro rfl
      exact .shortest shortest

theorem leafDimensions_collection (g : GeoObject α) (gs : List (GeoObject α)) :
    (collection h k (g :: gs)).leafDimensions = {d | ∃ c ∈ g :: gs, d ∈ c.leafDimensions} := by
  ext d
  constructor
  · rintro ⟨n, mem, leaf⟩
    rw [flatten_eq] at mem
    rcases List.mem_cons.1 mem with rfl | below
    · cases leaf
    · rcases List.mem_flatMap.1 below with ⟨c, child, inside⟩
      exact ⟨c, child, n, inside, leaf⟩
  · rintro ⟨c, child, n, inside, leaf⟩
    refine ⟨n, ?_, leaf⟩
    rw [flatten_eq]
    exact List.mem_cons_of_mem _ (List.mem_flatMap.2 ⟨c, child, inside⟩)

theorem leafDimensions_feature {i : FeatureInfo} :
    (feature h i g).leafDimensions = g.leafDimensions := by
  ext d
  constructor
  · rintro ⟨n, mem, leaf⟩
    rcases List.mem_cons.1 mem with rfl | below
    · cases leaf
    · exact ⟨n, below, leaf⟩
  · rintro ⟨n, below, leaf⟩
    exact ⟨n, List.mem_cons_of_mem _ below, leaf⟩

/-- The dimension of a tree is the least that one of its leaves counts for. -/
theorem isLeast_leafDimensions (known : g.dimension? = some d) : IsLeast g.leafDimensions d := by
  induction g using treeInduction generalizing d with
  | simple h c =>
      have own : ∀ {w}, LeafDimension (simple h c) w ↔ w = d := leafDimension_simple known
      refine ⟨⟨simple h c, List.mem_singleton_self _, own.2 rfl⟩, ?_⟩
      rintro w ⟨n, mem, leaf⟩
      obtain rfl := List.mem_singleton.1 mem
      exact le_of_eq (own.1 leaf).symm
  | collection h k gs ih =>
      rcases dimension?_collection.1 known with ⟨ds, each, rfl⟩
      cases gs with
      | nil =>
          cases each
          refine ⟨⟨_, List.mem_singleton_self _, .nothing⟩, ?_⟩
          rintro w ⟨n, mem, leaf⟩
          obtain rfl := List.mem_singleton.1 mem
          cases leaf
          exact Nat.le_refl 3
      | cons first gs =>
          rw [leafDimensions_collection]
          constructor
          · -- Some child has the dimension of the collection.
            have some_child : ds ≠ [] := by
              rcases dimension?_of_mem each List.mem_cons_self with ⟨d, among, -⟩
              exact List.ne_nil_of_mem among
            rcases mem_of_dimensions? each (leastDimension_mem some_child) with ⟨c, child, found⟩
            exact ⟨c, child, (ih c child found).1⟩
          · -- No leaf counts for less, since its child of the collection does not.
            rintro w ⟨c, child, inside⟩
            rcases dimension?_of_mem each child with ⟨d, among, found⟩
            exact Nat.le_trans (leastDimension_le among) ((ih c child found).2 inside)
  | feature h i g ih =>
      rw [leafDimensions_feature]
      exact ih known
  | unlocated h i =>
      cases known

/-! ## Storing the dimensions -/

theorem dimension_storeDimensions_of_invalid (invalid : g.isValid = false) :
    g.storeDimensions.header.dimension = g.header.dimension := by
  rw [header_storeDimensions, withDimension, isValid_eq_false.1 invalid]
  rfl

theorem isLeast_dimension_storeDimensions (valid : g.isValid = true) :
    IsLeast g.leafDimensions g.storeDimensions.header.dimension := by
  rcases isValid_eq_true.1 valid with ⟨d, known⟩
  rw [dimension_storeDimensions known]
  exact isLeast_leafDimensions known

/-- A tree is valid exactly if each node keeps its own rule. When the dimensions are stored, each node
that is valid, also beside or below others that are not, remembers the least that one of its leaves
counts for, and each node that is not valid remembers what it did before. Nothing else changes. -/
theorem storeDimensions_measures (g : GeoObject α) :
    (g.isValid = true ↔ ∀ n ∈ g.flatten, n.KeepsRule) ∧
    (g.isValid = true → IsLeast g.leafDimensions g.storeDimensions.header.dimension) ∧
    (∀ path n, g.node? path = some n →
      ∃ n', g.storeDimensions.node? path = some n' ∧
        (n.isValid = true → IsLeast n.leafDimensions n'.header.dimension) ∧
        (n.isValid = false → n'.header.dimension = n.header.dimension)) ∧
    g.storeDimensions.withoutDimensions = g.withoutDimensions := by
  refine ⟨isValid_iff g, isLeast_dimension_storeDimensions, ?_, withoutDimensions_storeDimensions g⟩
  intro path n found
  have there : g.storeDimensions.node? path = some n.storeDimensions := by
    rw [node?_of_children children_storeDimensions, found]
    rfl
  exact ⟨n.storeDimensions, there, isLeast_dimension_storeDimensions,
    dimension_storeDimensions_of_invalid⟩

/-- A point with one coordinate, and beside it a collection of a line in four dimensions and an area
without rings. -/
def unmeasured : GeoObject Int :=
  collection ⟨.geoJson, 9, none, []⟩ .geometries [
    simple ⟨.geoJson, 5, none, []⟩ (.point [1]),
    collection ⟨.geoJson, 7, none, []⟩ .geometries [
      simple .new (.lineString [[0, 0, 0, 0], [1, 1, 1, 1]]), simple .new (.polygon [])]]

/-- The area counts for three. The point and the whole tree remember what they did. -/
theorem storeDimensions_measures_beside :
    unmeasured.isValid = false ∧
      (∃ n', unmeasured.storeDimensions.node? [] = some n' ∧ n'.header.dimension = 9) ∧
      (∃ n', unmeasured.storeDimensions.node? [0] = some n' ∧ n'.header.dimension = 5) ∧
      ∃ n n', unmeasured.node? [1] = some n ∧ unmeasured.storeDimensions.node? [1] = some n' ∧
        n'.header.dimension = 3 ∧ IsLeast n.leafDimensions 3 := by
  rcases storeDimensions_measures unmeasured with ⟨-, -, nodes, -⟩
  rcases nodes [] _ rfl with ⟨whole, there, -, kept⟩
  rcases nodes [0] _ rfl with ⟨point, there₀, -, kept₀⟩
  rcases nodes [1] _ rfl with ⟨area, there₁, measured, -⟩
  have three : area.header.dimension = 3 := by
    cases there₁
    rfl
  exact ⟨rfl, ⟨whole, there, kept rfl⟩, ⟨point, there₀, kept₀ rfl⟩,
    _, area, rfl, there₁, three, three ▸ measured rfl⟩

end GeoObject
end RefFrame
