import RefFrame.Geometry.Basic

/-!
# Trees of GeoJSON objects

How a tree is gone through: the induction over its nodes (`GeoObject.treeInduction`), the nodes that
paths lead to (`GeoObject.node?`), and what a change of all headers does to them.
-/

namespace RefFrame
namespace GeoObject

variable {α : Type} {g : GeoObject α} {gs : List (GeoObject α)}

/-- Induction over a tree: what holds of a node follows from what holds of the nodes below it. -/
theorem treeInduction {motive : GeoObject α → Prop}
    (simple : ∀ h c, motive (simple h c))
    (collection : ∀ h k gs, (∀ g ∈ gs, motive g) → motive (collection h k gs))
    (feature : ∀ h i g, motive g → motive (feature h i g))
    (unlocated : ∀ h i, motive (unlocated h i)) (g : GeoObject α) : motive g := by
  refine GeoObject.rec (motive_1 := motive) (motive_2 := fun gs => ∀ g ∈ gs, motive g)
    simple collection feature unlocated ?_ ?_ g
  · intro g mem
    cases mem
  · intro first rest here later g mem
    rcases List.mem_cons.1 mem with rfl | below
    · exact here
    · exact later g below

/-- Induction over a tree where it does not matter what a node is. -/
theorem childInduction {motive : GeoObject α → Prop}
    (step : ∀ g, (∀ c ∈ g.children, motive c) → motive g) (g : GeoObject α) : motive g := by
  have leaf : ∀ {g : GeoObject α}, g.children = [] → motive g := by
    intro g none
    apply step
    intro c mem
    rw [none] at mem
    cases mem
  induction g using treeInduction with
  | simple h c =>
      exact leaf rfl
  | collection h k gs ih =>
      exact step _ ih
  | feature h i g ih =>
      exact step _ (List.forall_mem_singleton.2 ih)
  | unlocated h i =>
      exact leaf rfl

/-! ## Trees in a row -/

theorem flattenAll_eq (gs : List (GeoObject α)) : flattenAll gs = gs.flatMap flatten := by
  induction gs with
  | nil =>
      rfl
  | cons g gs ih =>
      rw [flattenAll, ih, List.flatMap_cons]

theorem mapHeadersAll_eq (f : Header α → Header α) (gs : List (GeoObject α)) :
    mapHeadersAll f gs = gs.map (mapHeaders f) := by
  induction gs with
  | nil =>
      rfl
  | cons g gs ih =>
      rw [mapHeadersAll, ih, List.map_cons]

/-! ## Nodes -/

/-- A node, and all nodes below its children. -/
theorem flatten_eq (g : GeoObject α) : g.flatten = g :: g.children.flatMap flatten := by
  cases g <;> simp [flatten, children, flattenAll_eq]

theorem forall_mem_flatten {P : GeoObject α → Prop} :
    (∀ n ∈ g.flatten, P n) ↔ P g ∧ ∀ c ∈ g.children, ∀ n ∈ c.flatten, P n := by
  rw [flatten_eq]
  constructor
  · intro all
    refine ⟨all g List.mem_cons_self, ?_⟩
    intro c mem n below
    exact all n (List.mem_cons_of_mem g (List.mem_flatMap.2 ⟨c, mem, below⟩))
  · rintro ⟨here, below⟩ n mem
    rcases List.mem_cons.1 mem with rfl | later
    · exact here
    · rcases List.mem_flatMap.1 later with ⟨c, child, inside⟩
      exact below c child n inside

/-- The node that a path leads to; it says at each node which of the children to take. -/
def node? (g : GeoObject α) : List Nat → Option (GeoObject α)
  | [] => some g
  | i :: path => (g.children[i]?).bind fun c => c.node? path

/-- A change of trees that changes children like their parents does so at every node. -/
theorem node?_of_children {f : GeoObject α → GeoObject α}
    (h : ∀ g, (f g).children = g.children.map f) (g : GeoObject α) (path : List Nat) :
    (f g).node? path = (g.node? path).map f := by
  induction path generalizing g with
  | nil =>
      rfl
  | cons i path ih =>
      simp only [node?, h, List.getElem?_map]
      cases g.children[i]? with
      | none =>
          rfl
      | some c =>
          exact ih c

/-- The coordinates of a geometry that has some. -/
def coordinates? : GeoObject α → Option (Coordinates α)
  | simple _ c => some c
  | _ => none

/-- What a feature has besides its geometry. -/
def info? : GeoObject α → Option FeatureInfo
  | feature _ i _ => some i
  | unlocated _ i => some i
  | _ => none

/-! ## Headers -/

theorem children_mapHeaders (f : Header α → Header α) (g : GeoObject α) :
    (g.mapHeaders f).children = g.children.map (mapHeaders f) := by
  cases g <;> simp [mapHeaders, children, mapHeadersAll_eq]

@[simp] theorem header_mapHeaders (f : Header α → Header α) (g : GeoObject α) :
    (g.mapHeaders f).header = f g.header := by
  cases g <;> rfl

@[simp] theorem kind_mapHeaders (f : Header α → Header α) (g : GeoObject α) :
    (g.mapHeaders f).kind = g.kind := by
  cases g <;> rfl

@[simp] theorem coordinates?_mapHeaders (f : Header α → Header α) (g : GeoObject α) :
    (g.mapHeaders f).coordinates? = g.coordinates? := by
  cases g <;> rfl

@[simp] theorem info?_mapHeaders (f : Header α → Header α) (g : GeoObject α) :
    (g.mapHeaders f).info? = g.info? := by
  cases g <;> rfl

theorem mapHeaders_mapHeaders (f f' : Header α → Header α) (g : GeoObject α) :
    (g.mapHeaders f).mapHeaders f' = g.mapHeaders fun h => f' (f h) := by
  induction g using treeInduction with
  | simple h c =>
      rfl
  | collection h k gs ih =>
      have below : gs.map (mapHeaders f' ∘ mapHeaders f) = gs.map (mapHeaders fun h => f' (f h)) :=
        List.map_congr_left ih
      simp only [mapHeaders, mapHeadersAll_eq, List.map_map, below]
  | feature h i g ih =>
      simp only [mapHeaders, ih]
  | unlocated h i =>
      rfl

theorem flatten_mapHeaders (f : Header α → Header α) (g : GeoObject α) :
    (g.mapHeaders f).flatten = g.flatten.map (mapHeaders f) := by
  induction g using childInduction with
  | step g ih =>
      have below : g.children.flatMap (fun c => (c.mapHeaders f).flatten) =
          g.children.flatMap fun c => c.flatten.map (mapHeaders f) := by
        rw [List.flatMap_def, List.flatMap_def, List.map_congr_left ih]
      rw [flatten_eq, flatten_eq g, children_mapHeaders, List.flatMap_map, below, List.map_cons,
        List.map_flatMap]

/-- A change of headers that changes none of the headers in a tree does not change the tree. -/
theorem mapHeaders_eq_self {f : Header α → Header α} (same : ∀ n ∈ g.flatten, f n.header = n.header) :
    g.mapHeaders f = g := by
  induction g using treeInduction with
  | simple h c =>
      have here : f h = h := (forall_mem_flatten.1 same).1
      rw [mapHeaders, here]
  | collection h k gs ih =>
      have here : f h = h := (forall_mem_flatten.1 same).1
      have below : gs.map (mapHeaders f) = gs.map id :=
        List.map_congr_left fun g mem => ih g mem ((forall_mem_flatten.1 same).2 g mem)
      rw [mapHeaders, mapHeadersAll_eq, here, below, List.map_id]
  | feature h i g ih =>
      have here : f h = h := (forall_mem_flatten.1 same).1
      have below := ih ((forall_mem_flatten.1 same).2 g (List.mem_singleton_self g))
      rw [mapHeaders, here, below]
  | unlocated h i =>
      have here : f h = h := (forall_mem_flatten.1 same).1
      rw [mapHeaders, here]

/-! ## Tags -/

theorem variant_of_mem_setVariant {v : CrsVariant} {n : GeoObject α}
    (mem : n ∈ (g.setVariant v).flatten) : n.header.variant = v := by
  rw [setVariant, flatten_mapHeaders] at mem
  rcases List.mem_map.1 mem with ⟨n', -, rfl⟩
  rw [header_mapHeaders]

theorem setVariant_setVariant (v w : CrsVariant) (g : GeoObject α) :
    (g.setVariant v).setVariant w = g.setVariant w :=
  mapHeaders_mapHeaders _ _ g

theorem setVariant_eq_self {v : CrsVariant} (tagged : ∀ n ∈ g.flatten, n.header.variant = v) :
    g.setVariant v = g := by
  apply mapHeaders_eq_self
  intro n mem
  rw [← tagged n mem]

end GeoObject
end RefFrame
