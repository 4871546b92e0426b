import RefFrame.Geometry.Edit
import RefFrame.Proofs.Geometry.Dimension

/-!
# Storing boxes

How each kind of node gets its box, and the induction that goes with it (`storeBoxesInduction`).
Storing boxes changes nothing else, it does not matter whether dimensions are stored before or
after, and a second time it changes nothing at all.
-/

namespace RefFrame
namespace GeoObject

variable {α : Type} {g c : GeoObject α} {h : Header α} {k : CollectionKind}
  {gs : List (GeoObject α)} {d : Nat}

/-! ## Unboxed feature collections -/

theorem isUnboxed_collection :
    (collection h k gs).isUnboxed = true ↔ k = .features ∧ h.bbox.isNone = true := by
  cases k <;> simp [isUnboxed, kind, CollectionKind.kind, header]

theorem eq_collection_of_isUnboxed (unboxed : g.isUnboxed = true) :
    ∃ h gs, g = collection h .features gs ∧ h.bbox = none := by
  cases g with
  | collection h k gs =>
      rcases isUnboxed_collection.1 unboxed with ⟨rfl, none⟩
      exact ⟨h, gs, rfl, Option.isNone_iff_eq_none.1 none⟩
  | simple h c =>
      cases c <;> cases unboxed
  | feature h i g =>
      cases unboxed
  | unlocated h i =>
      cases unboxed

theorem bbox_of_isUnboxed (unboxed : g.isUnboxed = true) : g.header.bbox = none := by
  rcases eq_collection_of_isUnboxed unboxed with ⟨h, gs, rfl, none⟩
  exact none

theorem isUnboxed_congr (sameKind : g.kind = c.kind) (sameBox : g.header.bbox = c.header.bbox) :
    g.isUnboxed = c.isUnboxed := by
  simp only [isUnboxed, sameKind, sameBox]

@[simp] theorem isUnboxed_storeDimensions (g : GeoObject α) :
    g.storeDimensions.isUnboxed = g.isUnboxed :=
  isUnboxed_congr (kind_storeDimensions g) (bbox_storeDimensions g)

theorem isUnboxed_mapHeaders {f : Header α → Header α} (keeps : ∀ h, (f h).bbox = h.bbox)
    (g : GeoObject α) : (g.mapHeaders f).isUnboxed = g.isUnboxed :=
  isUnboxed_congr (kind_mapHeaders f g) (by rw [header_mapHeaders, keeps])

/-- Induction over a tree along the way in which its boxes are stored. -/
theorem storeBoxesInduction {motive : GeoObject α → Prop}
    (unboxed : ∀ g, g.isUnboxed = true → motive g)
    (invalid : ∀ g, g.dimension? = none → motive g)
    (simple : ∀ h c d, (simple h c).dimension? = some d → motive (simple h c))
    (collection : ∀ h k gs d, (collection h k gs).dimension? = some d →
      (collection h k gs).isUnboxed = false → (∀ g ∈ gs, motive g) → motive (collection h k gs))
    (feature : ∀ h i g d, (feature h i g).dimension? = some d → motive g → motive (feature h i g))
    (g : GeoObject α) : motive g := by
  induction g using treeInduction with
  | simple h c =>
      cases known : (GeoObject.simple h c).dimension? with
      | none =>
          exact invalid _ known
      | some d =>
          exact simple h c d known
  | collection h k gs ih =>
      cases known : (GeoObject.collection h k gs).dimension? with
      | none =>
          exact invalid _ known
      | some d =>
          cases boxed : (GeoObject.collection h k gs).isUnboxed with
          | true =>
              exact unboxed _ boxed
          | false =>
              exact collection h k gs d known boxed ih
  | feature h i g ih =>
      cases known : (GeoObject.feature h i g).dimension? with
      | none =>
          exact invalid _ known
      | some d =>
          exact feature h i g d known ih
  | unlocated h i =>
      exact invalid _ rfl

/-! ## The boxes in a tree -/

/-- The boxes of some trees. -/
def boxes (gs : List (GeoObject α)) : List (Extent α) :=
  gs.filterMap fun g => g.header.bbox.map Extent.ofList

theorem boxes_map_storeDimensions (gs : List (GeoObject α)) :
    boxes (gs.map storeDimensions) = boxes gs := by
  simp only [boxes, List.filterMap_map, Function.comp_def, bbox_storeDimensions]

theorem boxes_map_mapHeaders {f : Header α → Header α} (keeps : ∀ h, (f h).bbox = h.bbox)
    (gs : List (GeoObject α)) : boxes (gs.map (mapHeaders f)) = boxes gs := by
  simp only [boxes, List.filterMap_map, Function.comp_def, header_mapHeaders, keeps]

theorem children_withBox (box : Option (List α)) (g : GeoObject α) :
    (g.withBox box).children = g.children := by
  cases g <;> rfl

theorem mapHeaders_withBox {f : Header α → Header α}
    (blind : ∀ (h : Header α) (box : Option (List α)), f { h with bbox := box } = f h)
    (box : Option (List α)) (g : GeoObject α) : (g.withBox box).mapHeaders f = g.mapHeaders f := by
  cases g <;> simp only [withBox, withHeader, header, mapHeaders, blind]

theorem withBox_mapHeaders {f : Header α → Header α}
    (apart : ∀ (h : Header α) (box : Option (List α)), f { h with bbox := box } = { f h with bbox := box })
    (box : Option (List α)) (g : GeoObject α) :
    (g.mapHeaders f).withBox box = (g.withBox box).mapHeaders f := by
  cases g with
  | simple h c =>
      exact congrArg (simple · c) (apart h box).symm
  | collection h k gs =>
      exact congrArg (collection · k (mapHeadersAll f gs)) (apart h box).symm
  | feature h i g =>
      exact congrArg (feature · i (mapHeaders f g)) (apart h box).symm
  | unlocated h i =>
      exact congrArg (unlocated · i) (apart h box).symm

/-- The tree without its boxes. -/
def withoutBoxes (g : GeoObject α) : GeoObject α :=
  g.mapHeaders fun h => { h with bbox := none }

section Boxes

variable [Min α] [Max α]

/-! ## Storing the boxes -/

theorem storeAllBoxes_eq (gs : List (GeoObject α)) :
    storeAllBoxes gs = gs.map storeBoxes := by
  induction gs with
  | nil =>
      rfl
  | cons g gs ih =>
      rw [storeAllBoxes, ih, List.map_cons]

/-! An unboxed feature collection stays as it is, and what is not valid loses its box. Otherwise a
collection gets the box around those of its children, and a feature that of its geometry. -/

theorem storeBoxes_of_isUnboxed (unboxed : g.isUnboxed = true) : g.storeBoxes = g := by
  rcases eq_collection_of_isUnboxed unboxed with ⟨h, gs, rfl, -⟩
  rw [storeBoxes, if_pos (isUnboxed_collection.1 unboxed)]

theorem storeBoxes_of_invalid (invalid : g.dimension? = none) : g.storeBoxes = g.withBox none := by
  cases g with
  | simple h c =>
      rw [storeBoxes, show c.dimension? = none from invalid]
      rfl
  | collection h k gs =>
      rw [storeBoxes]
      split
      · rename_i unboxed
        rw [withBox, header, ← Option.isNone_iff_eq_none.1 unboxed.2]
        rfl
      · rw [invalid]
        rfl
  | feature h i g =>
      rw [storeBoxes, show g.dimension? = none from invalid]
      rfl
  | unlocated h i =>
      rfl

theorem storeBoxes_collection (known : (collection h k gs).dimension? = some d)
    (boxed : (collection h k gs).isUnboxed = false) :
    (collection h k gs).storeBoxes =
      collection { h with
        bbox := (Extent.around? d (boxes (gs.map storeBoxes))).map Extent.toList } k
        (gs.map storeBoxes) := by
  have shut := mt isUnboxed_collection.2 (Bool.eq_false_iff.1 boxed)
  rw [storeBoxes, if_neg shut, known, storeAllBoxes_eq]
  rfl

theorem storeBoxes_feature {i : FeatureInfo} (known : (feature h i g).dimension? = some d) :
    (feature h i g).storeBoxes =
      feature { h with bbox := g.storeBoxes.header.bbox } i g.storeBoxes := by
  rw [storeBoxes, show g.dimension? = some d from known]

/-! ## What boxes leave as it is -/

theorem children_storeBoxes (known : g.dimension? = some d) (boxed : g.isUnboxed = false) :
    g.storeBoxes.children = g.children.map storeBoxes := by
  cases g with
  | simple h c =>
      rfl
  | collection h k gs =>
      rw [storeBoxes_collection known boxed]
      rfl
  | feature h i g =>
      rw [storeBoxes_feature known]
      rfl
  | unlocated h i =>
      cases known

theorem children_storeBoxes_cases (g : GeoObject α) :
    g.storeBoxes.children = g.children ∨ g.storeBoxes.children = g.children.map storeBoxes := by
  cases known : g.dimension? with
  | none =>
      exact .inl (by rw [storeBoxes_of_invalid known, children_withBox])
  | some d =>
      cases boxed : g.isUnboxed with
      | true =>
          exact .inl (by rw [storeBoxes_of_isUnboxed boxed])
      | false =>
          exact .inr (children_storeBoxes known boxed)

/-- A change of headers that sees no box does not see that boxes are stored. -/
theorem mapHeaders_storeBoxes {f : Header α → Header α}
    (blind : ∀ (h : Header α) (box : Option (List α)), f { h with bbox := box } = f h)
    (g : GeoObject α) : g.storeBoxes.mapHeaders f = g.mapHeaders f := by
  induction g using storeBoxesInduction with
  | unboxed g unboxed =>
      rw [storeBoxes_of_isUnboxed unboxed]
  | invalid g invalid =>
      rw [storeBoxes_of_invalid invalid, mapHeaders_withBox blind]
  | simple h c d known =>
      simp only [storeBoxes, mapHeaders, blind]
  | collection h k gs d known boxed ih =>
      have below : gs.map (mapHeaders f ∘ storeBoxes) = gs.map (mapHeaders f) :=
        List.map_congr_left ih
      simp only [storeBoxes_collection known boxed, mapHeaders, mapHeadersAll_eq, blind,
        List.map_map, below]
  | feature h i g d known ih =>
      simp only [storeBoxes_feature known, mapHeaders, blind, ih]

/-- Boxes are stored before or after a change of headers that has nothing to do with them. -/
theorem storeBoxes_mapHeaders {f : Header α → Header α}
    (apart : ∀ (h : Header α) (box : Option (List α)), f { h with bbox := box } = { f h with bbox := box })
    (keeps : ∀ h, (f h).bbox = h.bbox) (g : GeoObject α) :
    (g.mapHeaders f).storeBoxes = g.storeBoxes.mapHeaders f := by
  induction g using storeBoxesInduction with
  | unboxed g unboxed =>
      rw [storeBoxes_of_isUnboxed unboxed, storeBoxes_of_isUnboxed]
      rwa [isUnboxed_mapHeaders keeps]
  | invalid g invalid =>
      rw [storeBoxes_of_invalid invalid, ← withBox_mapHeaders apart, storeBoxes_of_invalid]
      rwa [dimension?_mapHeaders]
  | simple h c d known =>
      rw [mapHeaders, storeBoxes, storeBoxes, mapHeaders, ← apart h]
  | collection h k gs d known boxed ih =>
      have below : (gs.map (mapHeaders f)).map storeBoxes = (gs.map storeBoxes).map (mapHeaders f) := by
        rw [List.map_map, List.map_map]
        exact List.map_congr_left ih
      have known' := (dimension?_mapHeaders f (collection h k gs)).trans known
      have boxed' := (isUnboxed_mapHeaders keeps (collection h k gs)).trans boxed
      rw [mapHeaders, mapHeadersAll_eq] at known' boxed'
      rw [mapHeaders, mapHeadersAll_eq, storeBoxes_collection known' boxed',
        storeBoxes_collection known boxed, mapHeaders, mapHeadersAll_eq, below,
        boxes_map_mapHeaders keeps, ← apart h]
  | feature h i g d known ih =>
      have known' := (dimension?_mapHeaders f (feature h i g)).trans known
      rw [mapHeaders] at known'
      rw [mapHeaders, storeBoxes_feature known', storeBoxes_feature known, mapHeaders, ih, header_mapHeaders,
        keeps, ← apart h]

@[simp] theorem withoutBoxes_storeBoxes (g : GeoObject α) :
    g.storeBoxes.withoutBoxes = g.withoutBoxes :=
  mapHeaders_storeBoxes (fun _ _ => rfl) g

@[simp] theorem dimension?_storeBoxes (g : GeoObject α) : g.storeBoxes.dimension? = g.dimension? :=
  dimension?_eq_of_mapHeaders (withoutBoxes_storeBoxes g)

@[simp] theorem dimension_storeBoxes (g : GeoObject α) :
    g.storeBoxes.header.dimension = g.header.dimension := by
  have same := congrArg (fun g => g.header.dimension) (withoutBoxes_storeBoxes g)
  simpa only [withoutBoxes, header_mapHeaders] using same

@[simp] theorem kind_storeBoxes (g : GeoObject α) : g.storeBoxes.kind = g.kind := by
  have same := congrArg kind (withoutBoxes_storeBoxes g)
  simpa only [withoutBoxes, kind_mapHeaders] using same

/-- Dimensions and boxes are stored in either order. -/
theorem storeDimensions_storeBoxes (g : GeoObject α) :
    g.storeBoxes.storeDimensions = g.storeDimensions.storeBoxes := by
  induction g using storeBoxesInduction with
  | unboxed g unboxed =>
      rw [storeBoxes_of_isUnboxed unboxed, storeBoxes_of_isUnboxed]
      rwa [isUnboxed_storeDimensions]
  | invalid g invalid =>
      have invalid' : g.storeDimensions.dimension? = none := by
        rw [dimension?_storeDimensions, invalid]
      rw [storeBoxes_of_invalid invalid, storeBoxes_of_invalid invalid']
      cases g <;> rfl
  | simple h c d known =>
      rfl
  | collection h k gs d known boxed ih =>
      have below : (gs.map storeDimensions).map storeBoxes =
          (gs.map storeBoxes).map storeDimensions := by
        rw [List.map_map, List.map_map]
        exact (List.map_congr_left ih).symm
      have same : dimensions? (gs.map storeBoxes) = dimensions? gs :=
        dimensions?_map fun g _ => dimension?_storeBoxes g
      have known' := dimension?_storeDimensions (collection h k gs)
      have boxed' := isUnboxed_storeDimensions (collection h k gs)
      rw [storeDimensions, storeAllDimensions_eq] at known' boxed' ⊢
      rw [storeBoxes_collection known boxed,
        storeBoxes_collection (known'.trans known) (boxed'.trans boxed), below,
        boxes_map_storeDimensions, storeDimensions, storeAllDimensions_eq]
      simp only [withDimension, dimension?, same]
  | feature h i g d known ih =>
      have known' := dimension?_storeDimensions (feature h i g)
      rw [storeDimensions] at known' ⊢
      rw [storeBoxes_feature known, storeBoxes_feature (known'.trans known), ← ih,
        bbox_storeDimensions, storeDimensions]
      simp only [withDimension, dimension?, dimension?_storeBoxes]

@[simp] theorem storeBoxes_storeBoxes (g : GeoObject α) :
    g.storeBoxes.storeBoxes = g.storeBoxes := by
  induction g using storeBoxesInduction with
  | unboxed g unboxed =>
      rw [storeBoxes_of_isUnboxed unboxed, storeBoxes_of_isUnboxed unboxed]
  | invalid g invalid =>
      have invalid' : g.storeBoxes.dimension? = none := by
        rw [dimension?_storeBoxes, invalid]
      rw [storeBoxes_of_invalid invalid', storeBoxes_of_invalid invalid]
      cases g <;> rfl
  | simple h c d known =>
      rfl
  | collection h k gs d known boxed ih =>
      have below : (gs.map storeBoxes).map storeBoxes = gs.map storeBoxes := by
        rw [List.map_map]
        exact List.map_congr_left ih
      have known' := dimension?_storeBoxes (collection h k gs)
      rw [storeBoxes_collection known boxed] at known' ⊢
      -- A feature collection that has lost its box is not gone into again.
      cases boxed' : (collection { h with
          bbox := (Extent.around? d (boxes (gs.map storeBoxes))).map Extent.toList } k
          (gs.map storeBoxes)).isUnboxed with
      | true =>
          rw [storeBoxes_of_isUnboxed boxed']
      | false =>
          rw [storeBoxes_collection (known'.trans known) boxed', below]
  | feature h i g d known ih =>
      have known' := dimension?_storeBoxes (feature h i g)
      rw [storeBoxes_feature known] at known' ⊢
      rw [storeBoxes_feature (known'.trans known), ih]

end Boxes

end GeoObject
end RefFrame
