import Mathlib.Data.List.Basic
import RefFrame.Proofs.Geometry.Boxes
import RefFrame.Proofs.Geometry.Extent

/-!
# Bounding boxes of trees

The box that a tree is given goes, along the axes of the tree's dimension, exactly around the
positions in it, except for those that unboxed feature collections hold; and so it is at each node
outside of such collections. Nothing else is changed, and a second time nothing at all.
-/

namespace RefFrame
namespace GeoObject

variable {α : Type} {g c n : GeoObject α} {h : Header α} {k : CollectionKind}
  {gs : List (GeoObject α)} {d : Nat} {path : List Nat}

/-! ## Positions outside of unboxed collections -/

mutual

/-- The positions in a tree, except for those that unboxed feature collections hold. -/
def spanned : GeoObject α → List (Position α)
  | simple _ c => c.positions
  | collection h k gs => if k = .features ∧ h.bbox.isNone then [] else spannedAll gs
  | feature _ _ g => spanned g
  | unlocated _ _ => []

def spannedAll : List (GeoObject α) → List (Position α)
  | [] => []
  | g :: gs => spanned g ++ spannedAll gs

end

theorem spannedAll_eq (gs : List (GeoObject α)) : spannedAll gs = gs.flatMap spanned := by
  induction gs with
  | nil =>
      rfl
  | cons g gs ih =>
      rw [spannedAll, ih, List.flatMap_cons]

theorem spanned_of_isUnboxed (unboxed : g.isUnboxed = true) : g.spanned = [] := by
  rcases eq_collection_of_isUnboxed unboxed with ⟨h, gs, rfl, -⟩
  rw [spanned, if_pos (isUnboxed_collection.1 unboxed)]

theorem spanned_collection (boxed : (collection h k gs).isUnboxed = false) :
    (collection h k gs).spanned = gs.flatMap spanned := by
  rw [spanned, if_neg (mt isUnboxed_collection.2 (Bool.eq_false_iff.1 boxed)), spannedAll_eq]

@[simp] theorem spanned_storeDimensions (g : GeoObject α) :
    g.storeDimensions.spanned = g.spanned := by
  induction g using treeInduction with
  | simple h c =>
      rfl
  | collection h k gs ih =>
      have below : (gs.map storeDimensions).flatMap spanned = gs.flatMap spanned := by
        rw [List.flatMap_map]
        exact List.flatMap_congr ih
      simp only [storeDimensions, storeAllDimensions_eq, spanned, spannedAll_eq, withDimension,
        below]
  | feature h i g ih =>
      exact ih
  | unlocated h i =>
      rfl

/-! ## Nodes outside of unboxed collections -/

/-- The node that a path leads to, past no unboxed feature collection. -/
def openNode? (g : GeoObject α) (path : List Nat) : Option (GeoObject α) :=
  if g.isUnboxed then none
  else match path with
    | [] => some g
    | i :: path => (g.children[i]?).bind fun c => c.openNode? path

theorem openNode?_nil : g.openNode? [] = some n ↔ g.isUnboxed = false ∧ g = n := by
  simp [openNode?]

theorem openNode?_cons {i : Nat} :
    g.openNode? (i :: path) = some n ↔
      g.isUnboxed = false ∧ ∃ c, g.children[i]? = some c ∧ c.openNode? path = some n := by
  simp [openNode?, Option.bind_eq_some_iff]

/-- Unboxed feature collections are neither on the way nor at its end. -/
theorem isUnboxed_of_openNode? (found : g.openNode? path = some n) :
    g.isUnboxed = false ∧ n.isUnboxed = false := by
  induction path generalizing g with
  | nil =>
      rcases openNode?_nil.1 found with ⟨boxed, rfl⟩
      exact ⟨boxed, boxed⟩
  | cons i path ih =>
      rcases openNode?_cons.1 found with ⟨boxed, c, -, below⟩
      exact ⟨boxed, (ih below).2⟩

theorem openNode?_storeDimensions (found : g.openNode? path = some n) :
    g.storeDimensions.openNode? path = some n.storeDimensions := by
  induction path generalizing g with
  | nil =>
      rcases openNode?_nil.1 found with ⟨boxed, rfl⟩
      exact openNode?_nil.2 ⟨by rwa [isUnboxed_storeDimensions], rfl⟩
  | cons i path ih =>
      rcases openNode?_cons.1 found with ⟨boxed, c, child, below⟩
      refine openNode?_cons.2 ⟨by rwa [isUnboxed_storeDimensions], c.storeDimensions, ?_, ih below⟩
      rw [children_storeDimensions, List.getElem?_map, child]
      rfl

/-- The tree without what it remembers of its dimensions and boxes. -/
def withoutCaches (g : GeoObject α) : GeoObject α :=
  g.mapHeaders fun h => { h with dimension := defaultDimension, bbox := none }

section Boxes

variable [Min α] [Max α]

/-! ## What is kept as boxes grow -/

/-- The box of a valid tree is none if nothing is spanned; otherwise it is, of all positions that
are, what boxes of positions are and remain as they grow. -/
theorem storeBoxes_around {P : Nat → List (Position α) → Extent α → Prop}
    (grows : Extent.Grows P) (known : g.dimension? = some d) :
    ∃ box : Option (Extent α), g.storeBoxes.header.bbox = box.map Extent.toList ∧
      Extent.Around P d g.spanned box := by
  induction g using storeBoxesInduction generalizing d with
  | unboxed g unboxed =>
      refine ⟨none, ?_, ?_⟩
      · rw [storeBoxes_of_isUnboxed unboxed]
        exact bbox_of_isUnboxed unboxed
      · exact spanned_of_isUnboxed unboxed
  | invalid g invalid =>
      cases invalid.symm.trans known
  | simple h c d' found =>
      refine ⟨Extent.around? d (c.positions.map Extent.ofPosition), ?_, ?_⟩
      · rw [storeBoxes, show c.dimension? = some d from known]
        rfl
      · exact grows.around?_positions fun p mem => Coordinates.dimension?_le_length known mem
  | collection h k gs d' found boxed ih =>
      refine ⟨Extent.around? d (boxes (gs.map storeBoxes)), ?_, ?_⟩
      · rw [storeBoxes_collection known boxed]
        rfl
      · rw [spanned_collection boxed, boxes, List.filterMap_map]
        apply grows.around?
        intro g mem
        rcases dimension?_child known mem with ⟨d', known', fewer⟩
        rcases ih g mem known' with ⟨box, written, holds⟩
        refine ⟨d', fewer, ?_⟩
        -- The box of a child comes back in halves from the list that it was stored as.
        cases box with
        | none =>
            simpa only [Function.comp_apply, written, Option.map_none] using holds
        | some e =>
            simpa only [Function.comp_apply, written, Option.map_some,
              Extent.ofList_toList (grows.even holds)] using holds
  | feature h i g d' found ih =>
      rcases ih known with ⟨box, written, holds⟩
      refine ⟨box, ?_, holds⟩
      rw [storeBoxes_feature known]
      exact written

/-! ## Bringing a tree up to date -/

theorem updateBox_of_isUnboxed (unboxed : g.isUnboxed = true) : g.updateBox = g := by
  rw [updateBox, unboxed]
  rfl

theorem updateBox_of_boxed (boxed : g.isUnboxed = false) :
    g.updateBox = g.storeDimensions.storeBoxes := by
  rw [updateBox, boxed]
  rfl

theorem node?_storeBoxes (known : g.dimension? = some d) (found : g.openNode? path = some n) :
    g.storeBoxes.node? path = some n.storeBoxes ∧ ∃ d', n.dimension? = some d' := by
  induction path generalizing g d with
  | nil =>
      rcases openNode?_nil.1 found with ⟨-, rfl⟩
      exact ⟨rfl, d, known⟩
  | cons i path ih =>
      rcases openNode?_cons.1 found with ⟨boxed, c, child, below⟩
      rcases dimension?_child known (List.mem_of_getElem? child) with ⟨d', known', -⟩
      rcases ih known' below with ⟨there, valid⟩
      refine ⟨?_, valid⟩
      rw [node?, children_storeBoxes known boxed, List.getElem?_map, child]
      exact there

/-- A node outside of unboxed collections is brought up to date with the whole tree. -/
theorem node?_updateBox (known : g.dimension? = some d) (found : g.openNode? path = some n) :
    g.updateBox.node? path = some n.updateBox ∧ ∃ d', n.dimension? = some d' := by
  rcases isUnboxed_of_openNode? found with ⟨boxed, boxed'⟩
  have known' : g.storeDimensions.dimension? = some d := by
    rw [dimension?_storeDimensions, known]
  rcases node?_storeBoxes known' (openNode?_storeDimensions found) with ⟨there, d', valid⟩
  rw [updateBox_of_boxed boxed, updateBox_of_boxed boxed']
  exact ⟨there, d', by rwa [dimension?_storeDimensions] at valid⟩

/-- A tree that is up to date stays as it is. -/
theorem updateBox_updateBox (g : GeoObject α) : g.updateBox.updateBox = g.updateBox := by
  cases boxed : g.isUnboxed with
  | true =>
      rw [updateBox_of_isUnboxed boxed, updateBox_of_isUnboxed boxed]
  | false =>
      rw [updateBox_of_boxed boxed]
      -- A feature collection without positions has lost its box, and is passed over now.
      cases boxed' : g.storeDimensions.storeBoxes.isUnboxed with
      | true =>
          exact updateBox_of_isUnboxed boxed'
      | false =>
          rw [updateBox_of_boxed boxed', storeDimensions_storeBoxes, storeDimensions_storeDimensions,
            storeBoxes_storeBoxes]

@[simp] theorem withoutCaches_updateBox (g : GeoObject α) :
    g.updateBox.withoutCaches = g.withoutCaches := by
  rw [updateBox]
  split
  · rfl
  · calc
      g.storeDimensions.storeBoxes.withoutCaches
          = g.storeDimensions.withoutCaches := mapHeaders_storeBoxes (fun _ _ => rfl) _
      _ = g.withoutCaches := mapHeaders_storeDimensions (fun _ _ => rfl) g

end Boxes

/-! ## Exactness -/

section Exact

variable [LinearOrder α]

/-- The box of a valid tree is none if nothing is spanned, and spans what is otherwise. -/
theorem storeBoxes_spans (known : g.dimension? = some d) :
    ∃ box : Option (Extent α), g.storeBoxes.header.bbox = box.map Extent.toList ∧
      (box = none ↔ g.spanned = []) ∧ ∀ e ∈ box, Extent.Spans d g.spanned e := by
  rcases storeBoxes_around Extent.Spans.grows known with ⟨box, written, holds⟩
  refine ⟨box, written, ?_⟩
  cases box with
  | none =>
      refine ⟨iff_of_true rfl holds, ?_⟩
      intro e mem
      cases mem
  | some e =>
      have some_axis : 0 < d := Nat.lt_of_lt_of_le Nat.zero_lt_two (two_le_dimension? known)
      refine ⟨iff_of_false (Option.some_ne_none e) (Extent.Spans.ne_nil holds some_axis), ?_⟩
      intro e' mem
      obtain rfl := Option.some.inj mem
      exact holds

/-- In a valid tree that is brought up to date, each node outside of unboxed feature collections
remembers its dimension, and its box spans exactly the positions in it that such collections do not
hold. Nothing else is changed, and nothing at all when the tree is brought up to date again. -/
theorem updateBox_spans (valid : g.isValid = true) (boxed : g.isUnboxed = false) :
    g.openNode? [] = some g ∧
    (∀ path n, g.openNode? path = some n →
      ∃ n' d, ∃ box : Option (Extent α), g.updateBox.node? path = some n' ∧
        n.dimension? = some d ∧ n'.header.dimension = d ∧
        n'.header.bbox = box.map Extent.toList ∧ (box = none ↔ n.spanned = []) ∧
        ∀ e ∈ box, Extent.Spans d n.spanned e) ∧
    g.updateBox.withoutCaches = g.withoutCaches ∧ g.updateBox.updateBox = g.updateBox := by
  rcases Option.isSome_iff_exists.1 valid with ⟨d, known⟩
  refine ⟨?_, ?_, withoutCaches_updateBox g, updateBox_updateBox g⟩
  · exact openNode?_nil.2 ⟨boxed, rfl⟩
  · intro path n found
    rcases node?_updateBox known found with ⟨there, d', known'⟩
    have boxed' := (isUnboxed_of_openNode? found).2
    have stored : n.storeDimensions.dimension? = some d' := by
      rw [dimension?_storeDimensions, known']
    rcases storeBoxes_spans stored with ⟨box, written, nothing, spans⟩
    rw [spanned_storeDimensions] at nothing spans
    refine ⟨n.updateBox, d', box, there, known', ?_, ?_, nothing, spans⟩
    · rw [updateBox_of_boxed boxed', dimension_storeBoxes,
        dimension_storeDimensions known']
    · rw [updateBox_of_boxed boxed', written]

end Exact

/-- A collection of a point in space, a polygon without rings, an unboxed feature collection in the
plane, and a collection of its own. -/
def assorted : GeoObject Int :=
  collection .new .geometries [
    simple .new (.point [1, 5, 7]),
    simple .new (.polygon []),
    collection .new .features [feature .new ⟨.null, none⟩ (simple .new (.point [-9, -9]))],
    collection .new .geometries [simple .new (.lineString [[4, 2, 0, 1], [3, 3, 3, 3]])]]

/-- The box lies in the plane, and the point that the feature collection holds is not in it. -/
theorem updateBox_spans_assorted :
    assorted.isValid = true ∧ assorted.isUnboxed = false ∧
      (∃ e : Extent Int, assorted.updateBox.header.bbox = some e.toList ∧
        e.toList = [1, 2, 4, 5] ∧ e.Spans 2 [[1, 5, 7], [4, 2, 0, 1], [3, 3, 3, 3]]) ∧
      assorted.updateBox.updateBox = assorted.updateBox := by
  have valid : assorted.isValid = true := rfl
  have boxed : assorted.isUnboxed = false := rfl
  have computed : assorted.updateBox.header.bbox = some [1, 2, 4, 5] := rfl
  rcases updateBox_spans valid boxed with ⟨-, nodes, -, again⟩
  rcases nodes [] assorted rfl with ⟨n', d, box, there, known, -, written, nothing, spans⟩
  obtain rfl : assorted.updateBox = n' := Option.some.inj there
  obtain rfl : 2 = d := Option.some.inj known
  refine ⟨valid, boxed, ?_, again⟩
  cases box with
  | none =>
      cases nothing.1 rfl
  | some e =>
      exact ⟨e, written, Option.some.inj (written.symm.trans computed), spans e rfl⟩

end GeoObject
end RefFrame
