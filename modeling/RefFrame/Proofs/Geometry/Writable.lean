import RefFrame.Proofs.Geometry.BoundingBox
import RefFrame.Proofs.Geometry.Decode

/-!
# Trees that can be written

A node can be written, so that it can be read again, if its box is one, its coordinates are finite,
and none of the members without a meaning bears a name that has one (`GeoJson.Writable`). All nodes
of a tree that has been read are such, and they remain so when dimensions and boxes are stored.
-/

namespace RefFrame

/-! ## Coordinates -/

instance minEqOr_float : Std.MinEqOr Float where
  min_eq_or x y := by
    show (if x ≤ y then x else y) = x ∨ (if x ≤ y then x else y) = y
    split
    · exact .inl rfl
    · exact .inr rfl

instance maxEqOr_float : Std.MaxEqOr Float where
  max_eq_or x y := by
    show (if x ≤ y then y else x) = x ∨ (if x ≤ y then y else x) = y
    split
    · exact .inr rfl
    · exact .inl rfl

namespace GeoObject

variable {α : Type} {g : GeoObject α} {p : Position α}

/-- The positions that a node has without the nodes below it. -/
def ownPositions : GeoObject α → List (Position α)
  | simple _ c => c.positions
  | _ => []

@[simp] theorem ownPositions_mapHeaders (f : Header α → Header α) (g : GeoObject α) :
    (g.mapHeaders f).ownPositions = g.ownPositions := by
  cases g <;> rfl

theorem exists_of_mem_spanned (mem : p ∈ g.spanned) : ∃ n ∈ g.flatten, p ∈ n.ownPositions := by
  induction g using treeInduction with
  | simple h c =>
      exact ⟨simple h c, List.mem_singleton_self _, mem⟩
  | collection h k gs ih =>
      cases boxed : (collection h k gs).isUnboxed with
      | true =>
          rw [spanned_of_isUnboxed boxed] at mem
          cases mem
      | false =>
          rw [spanned_collection boxed] at mem
          rcases List.mem_flatMap.1 mem with ⟨g, child, below⟩
          rcases ih g child below with ⟨n, inside, own⟩
          refine ⟨n, ?_, own⟩
          rw [flatten_eq]
          exact List.mem_cons_of_mem _ (List.mem_flatMap.2 ⟨g, child, inside⟩)
  | feature h i g ih =>
      rcases ih mem with ⟨n, inside, own⟩
      exact ⟨n, List.mem_cons_of_mem _ inside, own⟩
  | unlocated h i =>
      cases mem

end GeoObject

namespace GeoJson

open GeoObject

variable {g c n : GeoJson} {v : Json}

/-- What makes the header of a node of some kind fit to be written. -/
structure Fits (kind : GeoKind) (h : Header Float) : Prop where
  box : ∀ b, h.bbox = some b → b.length % 2 = 0 ∧ 4 ≤ b.length ∧ ∀ x ∈ b, x.isFinite = true
  foreign : ∀ m ∈ h.foreign, m.1 ∉ kind.ownMembers

/-- What makes a node fit to be written. -/
structure Writable (n : GeoJson) : Prop where
  header : Fits n.kind n.header
  finite : ∀ p ∈ n.ownPositions, ∀ x ∈ p, x.isFinite = true

/-- Every node of a tree is fit to be written. -/
def AllWritable (g : GeoJson) : Prop :=
  ∀ n ∈ g.flatten, Writable n

theorem allWritable_iff : AllWritable g ↔ Writable g ∧ ∀ c ∈ g.children, AllWritable c :=
  forall_mem_flatten

theorem AllWritable.child (h : AllWritable g) (mem : c ∈ g.children) : AllWritable c :=
  (allWritable_iff.1 h).2 c mem

/-! ## Changes of headers -/

section Headers

variable {f : Header Float → Header Float}

theorem writable_mapHeaders (box : ∀ h, (f h).bbox = h.bbox)
    (foreign : ∀ h, (f h).foreign = h.foreign) :
    Writable (g.mapHeaders f) ↔ Writable g := by
  constructor
  · intro h
    exact ⟨⟨by simpa [box] using h.header.box, by simpa [foreign] using h.header.foreign⟩,
      by simpa using h.finite⟩
  · intro h
    exact ⟨⟨by simpa [box] using h.header.box, by simpa [foreign] using h.header.foreign⟩,
      by simpa using h.finite⟩

theorem allWritable_mapHeaders (box : ∀ h, (f h).bbox = h.bbox)
    (foreign : ∀ h, (f h).foreign = h.foreign) :
    AllWritable (g.mapHeaders f) ↔ AllWritable g := by
  induction g using childInduction with
  | step g ih =>
      rw [allWritable_iff, allWritable_iff, writable_mapHeaders box foreign, children_mapHeaders,
        List.forall_mem_map]
      exact and_congr_right fun _ => forall₂_congr ih

theorem allWritable_withoutDimensions : AllWritable g.withoutDimensions ↔ AllWritable g :=
  allWritable_mapHeaders (fun _ => rfl) (fun _ => rfl)

theorem allWritable_storeDimensions : AllWritable g.storeDimensions ↔ AllWritable g := by
  rw [← allWritable_withoutDimensions, withoutDimensions_storeDimensions,
    allWritable_withoutDimensions]

end Headers

/-! ## Boxes -/

theorem isFinite_of_mem_spanned {p : Position Float} {x : Float} (h : AllWritable g)
    (mem : p ∈ g.spanned) (inside : x ∈ p) : x.isFinite = true := by
  rcases exists_of_mem_spanned mem with ⟨n, below, own⟩
  exact (h n below).finite p own x inside

theorem writable_storeBoxes (h : AllWritable g) : Writable g.storeBoxes := by
  have here := (allWritable_iff.1 h).1
  have same := withoutBoxes_storeBoxes g
  have foreign : g.storeBoxes.header.foreign = g.header.foreign := by
    simpa [withoutBoxes] using congrArg (fun g => g.header.foreign) same
  have positions : g.storeBoxes.ownPositions = g.ownPositions := by
    simpa [withoutBoxes] using congrArg ownPositions same
  refine ⟨⟨?_, ?_⟩, ?_⟩
  · intro b stored
    cases known : g.dimension? with
    | none =>
        rw [storeBoxes_of_invalid known] at stored
        cases g <;> cases stored
    | some d =>
        rcases storeBoxes_around Extent.Drawn.grows known with ⟨box, written, drawn⟩
        rw [written] at stored
        rcases Option.map_eq_some_iff.1 stored with ⟨e, rfl, rfl⟩
        -- Both corners have all axes of the tree, and there are two axes at least.
        have spans : e.Drawn d g.spanned := drawn
        have length : e.toList.length = d + d := by
          rw [Extent.toList, List.length_append, spans.lower_length, spans.upper_length]
        have axes : 2 ≤ d := two_le_dimension? known
        refine ⟨by omega, by omega, ?_⟩
        intro x mem
        rcases spans.drawn mem with ⟨p, position, inside⟩
        exact isFinite_of_mem_spanned h position inside
  · rw [foreign, kind_storeBoxes]
    exact here.header.foreign
  · rw [positions]
    exact here.finite

theorem allWritable_storeBoxes (h : AllWritable g) : AllWritable g.storeBoxes := by
  induction g using childInduction with
  | step g ih =>
      refine allWritable_iff.2 ⟨writable_storeBoxes h, ?_⟩
      rcases children_storeBoxes_cases g with same | same <;> rw [same]
      · exact fun c mem => h.child mem
      · intro c mem
        rcases List.mem_map.1 mem with ⟨c', child, rfl⟩
        exact ih c' child (h.child child)

theorem allWritable_updateBox (h : AllWritable g) : AllWritable g.updateBox := by
  rw [updateBox]
  split
  · exact h
  · exact allWritable_storeBoxes (allWritable_storeDimensions.2 h)

/-! ## Reading -/

theorem writable_of_parse (finite : v.FiniteNumbers) (read : parse v = .ok g) : Writable g := by
  rcases parse_eq_ok.1 read with ⟨ms, rfl, -, headed, held⟩
  rcases headerOf_eq_ok.1 headed with ⟨bbox, boxRead, same⟩
  refine ⟨⟨?_, ?_⟩, ?_⟩
  · intro b stored
    rw [same] at stored
    obtain rfl : bbox = some b := stored
    split at boxRead
    · cases boxRead
    · rename_i v found
      rcases boxRead with ⟨b', boxRead, same'⟩
      obtain rfl := Option.some.inj same'
      rcases Json.box?_eq_ok.1 boxRead with ⟨position, even, long⟩
      exact ⟨even, long, Json.isFinite_of_position? (finite.of_present? found) position⟩
  · intro m mem
    rw [same] at mem
    exact of_decide_eq_true (List.mem_filter.1 mem).2
  · cases g with
    | simple h c =>
        rcases held with ⟨v, found, held⟩
        exact Coordinates.finite_of_readFrom (finite.of_get? found) held
    | _ =>
        intro p mem
        cases mem

theorem exists_of_mem_children (finite : v.FiniteNumbers) (read : parse v = .ok g)
    (mem : c ∈ g.children) : ∃ v', v'.FiniteNumbers ∧ parse v' = .ok c := by
  rcases parse_eq_ok.1 read with ⟨ms, rfl, -, -, held⟩
  cases g with
  | collection h k gs =>
      rcases held with ⟨values, found, below⟩
      rcases exists_of_mem_mapM below mem with ⟨v', element, read'⟩
      exact ⟨v', (finite.of_get? found).of_mem element, read'⟩
  | feature h i g =>
      rcases held with ⟨v', found, -, read'⟩
      obtain rfl := List.mem_singleton.1 mem
      exact ⟨v', finite.of_present? found, read'⟩
  | _ =>
      cases mem

theorem allWritable_of_parse (finite : v.FiniteNumbers) (read : parse v = .ok g) :
    AllWritable g := by
  -- By induction on what has been read; its children have been read from parts of the value.
  induction g using childInduction generalizing v with
  | step g ih =>
      refine allWritable_iff.2 ⟨writable_of_parse finite read, ?_⟩
      intro c mem
      rcases exists_of_mem_children finite read mem with ⟨v', finite', read'⟩
      exact ih c mem finite' read'

end GeoJson
end RefFrame
