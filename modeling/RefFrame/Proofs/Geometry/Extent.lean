import Mathlib.Order.Bounds.Basic
import RefFrame.Geometry.Extent

/-!
# Boxes around positions

What a box around several others inherits from them (`Extent.Grows.around?`): a property that the
box of one position has, and that is kept when boxes are cut to fewer axes and when they are joined.
Where coordinates are in a linear order one such property says all about a box: along each axis it
goes from the least coordinate to the greatest (`Extent.Spans`). Where nothing is known of an order
there is another: the coordinates of the box are coordinates of the positions (`Extent.Drawn`).
-/

namespace RefFrame
namespace Extent

variable {α β : Type} {d d' : Nat} {a b e : Extent α} {ps qs : List (Position α)}

/-! ## Boxes as lists -/

theorem ofList_toList (even : e.lower.length = e.upper.length) : ofList e.toList = e := by
  have half : (e.lower ++ e.upper).length / 2 = e.lower.length := by
    rw [List.length_append]
    omega
  simp only [ofList, toList, half, List.take_left', List.drop_left']

/-! ## Properties of boxes that grow -/

section Grows

variable [Min α] [Max α]

/-- What can be said of the box of some positions along some axes while it grows. -/
structure Grows (P : Nat → List (Position α) → Extent α → Prop) : Prop where
  even : ∀ {d ps e}, P d ps e → e.lower.length = e.upper.length
  position : ∀ p, P p.length [p] (ofPosition p)
  take : ∀ {d d' ps e}, d ≤ d' → P d' ps e → P d ps (e.take d)
  join : ∀ {d d' ps qs a b}, d ≤ d' → P d ps a → P d' qs b → P d (ps ++ qs) (a.join b)

/-- A property of the box of some positions, which is none exactly if they are none. -/
def Around (P : Nat → List (Position α) → Extent α → Prop) (d : Nat) (ps : List (Position α)) :
    Option (Extent α) → Prop
  | none => ps = []
  | some e => P d ps e

variable {P : Nat → List (Position α) → Extent α → Prop} {ps : β → List (Position α)}
  {box : β → Option (Extent α)} {xs : List β}

theorem Grows.foldl_join (grows : Grows P) {qs : List (Position α)} (start : P d qs e)
    (each : ∀ x ∈ xs, ∃ d', d ≤ d' ∧ Around P d' (ps x) (box x)) :
    P d (qs ++ xs.flatMap ps) ((xs.filterMap box).foldl Extent.join e) := by
  -- By induction on the boxes to come; the box so far is that of the positions so far.
  induction xs generalizing qs e with
  | nil =>
      simpa using start
  | cons x xs ih =>
      have later : ∀ y ∈ xs, ∃ d', d ≤ d' ∧ Around P d' (ps y) (box y) :=
        fun y mem => each y (List.mem_cons_of_mem x mem)
      rcases each x List.mem_cons_self with ⟨d', fewer, here⟩
      rw [List.flatMap_cons, ← List.append_assoc]
      cases known : box x with
      | none =>
          rw [known] at here
          rw [List.filterMap_cons_none known, show ps x = [] from here, List.append_nil]
          exact ih start later
      | some e' =>
          rw [known] at here
          rw [List.filterMap_cons_some known]
          exact ih (grows.join fewer start here) later

/-- The box around several boxes is what they are, of all their positions. -/
theorem Grows.around? (grows : Grows P)
    (each : ∀ x ∈ xs, ∃ d', d ≤ d' ∧ Around P d' (ps x) (box x)) :
    Around P d (xs.flatMap ps) (Extent.around? d (xs.filterMap box)) := by
  induction xs with
  | nil =>
      rfl
  | cons x xs ih =>
      have later : ∀ y ∈ xs, ∃ d', d ≤ d' ∧ Around P d' (ps y) (box y) :=
        fun y mem => each y (List.mem_cons_of_mem x mem)
      rcases each x List.mem_cons_self with ⟨d', fewer, here⟩
      rw [List.flatMap_cons]
      cases known : box x with
      | none =>
          rw [known] at here
          rw [List.filterMap_cons_none known, show ps x = [] from here]
          exact ih later
      | some e =>
          rw [known] at here
          -- The first box is cut to the axes that count; each join cuts what follows.
          rw [List.filterMap_cons_some known]
          exact grows.foldl_join (grows.take fewer here) later

/-- The box of positions that have the axes it goes along. -/
theorem Grows.around?_positions (grows : Grows P) {ps : List (Position α)}
    (wide : ∀ p ∈ ps, d ≤ p.length) :
    Around P d ps (Extent.around? d (ps.map ofPosition)) := by
  have each : ∀ p ∈ ps, ∃ d', d ≤ d' ∧ Around P d' [p] (some (ofPosition p)) :=
    fun p mem => ⟨p.length, wide p mem, grows.position p⟩
  have all := grows.around? each
  rwa [List.flatMap_singleton', List.filterMap_eq_map'] at all

end Grows

/-! ## From the least coordinate to the greatest -/

/-- The coordinates that some positions have along an axis. -/
def axis (ps : List (Position α)) (i : Nat) : Set α :=
  {x | ∃ p ∈ ps, p[i]? = some x}

theorem axis_append (ps qs : List (Position α)) (i : Nat) :
    axis (ps ++ qs) i = axis ps i ∪ axis qs i := by
  ext x
  simp only [axis, List.mem_append, Set.mem_union, Set.mem_ofPred_eq, or_and_right, exists_or]

theorem getElem?_of_take {xs : List α} {i : Nat} {x : α} (found : (xs.take d)[i]? = some x) :
    xs[i]? = some x := by
  rw [List.getElem?_take] at found
  exact (Option.ite_none_right_eq_some.1 found).2

/-- A box that spans some positions exactly, along the first `d` axes. -/
structure Spans [LE α] (d : Nat) (ps : List (Position α)) (e : Extent α) : Prop where
  lower_length : e.lower.length = d
  upper_length : e.upper.length = d
  least : ∀ {i x}, e.lower[i]? = some x → IsLeast (axis ps i) x
  greatest : ∀ {i x}, e.upper[i]? = some x → IsGreatest (axis ps i) x

namespace Spans

variable [LinearOrder α]

theorem ofPosition (p : Position α) : Spans p.length [p] (ofPosition p) := by
  refine ⟨rfl, rfl, ?_, ?_⟩ <;> intro i x found
  · refine ⟨⟨p, List.mem_singleton_self p, found⟩, ?_⟩
    rintro y ⟨q, mem, found'⟩
    rw [List.mem_singleton.1 mem, show p[i]? = some x from found] at found'
    exact le_of_eq (Option.some.inj found')
  · refine ⟨⟨p, List.mem_singleton_self p, found⟩, ?_⟩
    rintro y ⟨q, mem, found'⟩
    rw [List.mem_singleton.1 mem, show p[i]? = some x from found] at found'
    exact le_of_eq (Option.some.inj found').symm

theorem take (fewer : d ≤ d') (h : Spans d' ps e) : Spans d ps (e.take d) where
  lower_length := by simp [Extent.take, h.lower_length, fewer]
  upper_length := by simp [Extent.take, h.upper_length, fewer]
  least found := h.least (getElem?_of_take found)
  greatest found := h.greatest (getElem?_of_take found)

theorem join (fewer : d ≤ d') (h : Spans d ps a) (h' : Spans d' qs b) :
    Spans d (ps ++ qs) (a.join b) where
  lower_length := by simp [Extent.join, h.lower_length, h'.lower_length, fewer]
  upper_length := by simp [Extent.join, h.upper_length, h'.upper_length, fewer]
  least {i x} found := by
    rcases List.getElem?_zipWith_eq_some.1 found with ⟨y, y', here, there, rfl⟩
    rw [axis_append]
    exact (h.least here).union (h'.least there)
  greatest {i x} found := by
    rcases List.getElem?_zipWith_eq_some.1 found with ⟨y, y', here, there, rfl⟩
    rw [axis_append]
    exact (h.greatest here).union (h'.greatest there)

theorem ne_nil (h : Spans d ps e) (positive : 0 < d) : ps ≠ [] := by
  have inside : 0 < e.lower.length := by rwa [h.lower_length]
  rcases (h.least (List.getElem?_eq_getElem inside)).1 with ⟨p, mem, -⟩
  exact List.ne_nil_of_mem mem

/-- Spanning is a property of boxes that grow. -/
theorem grows : Grows (Spans (α := α)) where
  even h := h.lower_length.trans h.upper_length.symm
  position := ofPosition
  take := take
  join := join

end Spans

/-! ## Nothing but coordinates of the positions -/

/-- A box along the first `d` axes whose coordinates are all coordinates of some positions. -/
structure Drawn (d : Nat) (ps : List (Position α)) (e : Extent α) : Prop where
  lower_length : e.lower.length = d
  upper_length : e.upper.length = d
  drawn : ∀ {x}, x ∈ e.toList → ∃ p ∈ ps, x ∈ p

theorem exists_of_mem_zipWith {f : α → α → α} {xs ys : List α} {z : α}
    (mem : z ∈ xs.zipWith f ys) : ∃ x ∈ xs, ∃ y ∈ ys, f x y = z := by
  rcases List.mem_iff_getElem?.1 mem with ⟨i, found⟩
  rcases List.getElem?_zipWith_eq_some.1 found with ⟨x, y, here, there, same⟩
  exact ⟨x, List.mem_of_getElem? here, y, List.mem_of_getElem? there, same⟩

namespace Drawn

theorem ofPosition (p : Position α) : Drawn p.length [p] (ofPosition p) where
  lower_length := rfl
  upper_length := rfl
  drawn mem := ⟨p, List.mem_singleton_self p, (List.mem_append.1 mem).elim id id⟩

theorem take (fewer : d ≤ d') (h : Drawn d' ps e) : Drawn d ps (e.take d) where
  lower_length := by simp [Extent.take, h.lower_length, fewer]
  upper_length := by simp [Extent.take, h.upper_length, fewer]
  drawn mem := by
    rcases List.mem_append.1 mem with low | high
    · exact h.drawn (List.mem_append_left _ (List.mem_of_mem_take low))
    · exact h.drawn (List.mem_append_right _ (List.mem_of_mem_take high))

variable [Min α] [Max α] [Std.MinEqOr α] [Std.MaxEqOr α]

theorem join (fewer : d ≤ d') (h : Drawn d ps a) (h' : Drawn d' qs b) :
    Drawn d (ps ++ qs) (a.join b) where
  lower_length := by simp [Extent.join, h.lower_length, h'.lower_length, fewer]
  upper_length := by simp [Extent.join, h.upper_length, h'.upper_length, fewer]
  drawn {x} mem := by
    have from_either : x ∈ a.toList ∨ x ∈ b.toList := by
      rcases List.mem_append.1 mem with low | high
      · rcases exists_of_mem_zipWith low with ⟨y, here, z, there, rfl⟩
        rcases Std.MinEqOr.min_eq_or y z with same | same <;> rw [same]
        · exact .inl (List.mem_append_left _ here)
        · exact .inr (List.mem_append_left _ there)
      · rcases exists_of_mem_zipWith high with ⟨y, here, z, there, rfl⟩
        rcases Std.MaxEqOr.max_eq_or y z with same | same <;> rw [same]
        · exact .inl (List.mem_append_right _ here)
        · exact .inr (List.mem_append_right _ there)
    rcases from_either with first | second
    · rcases h.drawn first with ⟨p, mem, inside⟩
      exact ⟨p, List.mem_append_left qs mem, inside⟩
    · rcases h'.drawn second with ⟨p, mem, inside⟩
      exact ⟨p, List.mem_append_right ps mem, inside⟩

/-- To be drawn from positions is a property of boxes that grow. -/
theorem grows : Grows (Drawn (α := α)) where
  even h := h.lower_length.trans h.upper_length.symm
  position := ofPosition
  take := take
  join := join

end Drawn
end Extent
end RefFrame
