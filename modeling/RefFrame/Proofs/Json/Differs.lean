import RefFrame.Proofs.Json.Shape

/-!
# Trees that differ in places

`Differs P l t t'` compares two trees from the root down: they are equal but for the values that `P`
allows to be exchanged, and apart from those they have the same arrays, the same keys in the same
order, and the same leaves. `P` is told where a value stands; `l` is the location of the two trees.

For trees that hold each key once, `differs_of_leaves` gets there from what `get?` says of the two
trees: the same shape, and leaves that are equal or may be exchanged.
-/

namespace RefFrame

open Json

namespace Members

variable {ms : Members} {k : String} {v : Json} {i : Nat}

theorem get?_of_getElem? (unique : ms.keys.Nodup) (h : ms[i]? = some (k, v)) :
    ms.get? k = some v := by
  induction ms generalizing i with
  | nil =>
      simp at h
  | cons m rest ih =>
      rcases m with ⟨k₀, v₀⟩
      have head : k₀ ∉ keys rest := (List.nodup_cons.1 unique).1
      cases i with
      | zero =>
          have same : k₀ = k ∧ v₀ = v := by simpa using h
          simp [get?, same]
      | succ i =>
          have later : rest[i]? = some (k, v) := by simpa using h
          have mem : k ∈ keys rest := List.mem_map_of_mem (List.mem_of_getElem? later)
          have other : ¬ k = k₀ := fun e => head (e ▸ mem)
          have found : get? rest k = some v := ih (List.nodup_cons.1 unique).2 later
          simpa [get?, List.lookup_cons, beq_false_of_ne other] using found

theorem mem_of_get? (h : ms.get? k = some v) : (k, v) ∈ ms := by
  rcases List.lookup_eq_some_iff.1 h with ⟨before, after, listed, -⟩
  simp [listed]

end Members

namespace Json

/-- Two trees, equal but for exchanged values. -/
inductive Differs (P : Location → Json → Json → Prop) : Location → Json → Json → Prop
  | same (l : Location) (t : Json) : Differs P l t t
  | exchanged {l : Location} {v w : Json} (allowed : P l v w) : Differs P l v w
  | arr {l : Location} {es es' : List Json} (length : es'.length = es.length)
      (elements : ∀ (i : Nat) (e e' : Json), es[i]? = some e → es'[i]? = some e' →
        Differs P (l ++ [.index i]) e e') :
      Differs P l (arr es) (arr es')
  | obj {l : Location} {ms ms' : Members} (keys : ms'.keys = ms.keys)
      (members : ∀ (i : Nat) (k : String) (v v' : Json), ms[i]? = some (k, v) →
        ms'[i]? = some (k, v') → Differs P (l ++ [.key k]) v v') :
      Differs P l (obj ms) (obj ms')

variable {P : Location → Json → Json → Prop} {t t' v : Json} {ms ms' : Members}
  {es : List Json}

theorem uniqueKeysAll_iff : UniqueKeysAll es ↔ ∀ e ∈ es, UniqueKeys e := by
  induction es with
  | nil =>
      simp [UniqueKeysAll]
  | cons e es ih =>
      simp [UniqueKeysAll, ih]

theorem uniqueKeysMembers_iff : UniqueKeysMembers ms ↔ ∀ m ∈ ms, UniqueKeys m.2 := by
  induction ms with
  | nil =>
      simp [UniqueKeysMembers]
  | cons m ms ih =>
      simp [UniqueKeysMembers, ih]

theorem UniqueKeys.of_element {i : Nat} (h : (Json.arr es).UniqueKeys) (found : es[i]? = some v) :
    v.UniqueKeys := by
  rw [UniqueKeys, uniqueKeysAll_iff] at h
  exact h v (List.mem_of_getElem? found)

theorem UniqueKeys.of_member {i : Nat} {k : String} (h : (Json.obj ms).UniqueKeys)
    (found : ms[i]? = some (k, v)) : v.UniqueKeys := by
  rw [UniqueKeys, uniqueKeysMembers_iff] at h
  exact h.2 (k, v) (List.mem_of_getElem? found)

/-- Objects with the same unique keys are compared key by key. -/
theorem differs_of_keys {l : Location} (unique : ms.keys.Nodup) (keys : ms'.keys = ms.keys)
    (values : ∀ k v v', ms.get? k = some v → ms'.get? k = some v' →
      Differs P (l ++ [.key k]) v v') :
    Differs P l (Json.obj ms) (Json.obj ms') := by
  refine .obj keys ?_
  intro i k v v' found found'
  have unique' : ms'.keys.Nodup := keys ▸ unique
  exact values k v v' (Members.get?_of_getElem? unique found)
    (Members.get?_of_getElem? unique' found')

/-- Trees of the same shape, compared leaf by leaf. -/
theorem differs_of_leaves {t t' : Json} (l : Location) (unique : t.UniqueKeys)
    (shape : SameShape t t')
    (leaves : ∀ m v, t.get? m = some v → v.IsLeaf →
      t'.get? m = some v ∨ ∃ w, t'.get? m = some w ∧ P (l ++ m) v w) : Differs P l t t' := by
  -- The recursion is on the size of the tree: its elements and members are smaller.
  have leaf : t.IsLeaf → Differs P l t t' := by
    intro leaf
    rcases leaves [] t (get?_nil t) leaf with same | ⟨w, written, allowed⟩
    · have same : t' = t := by simpa using same
      rw [same]
      exact .same l t
    · have same : t' = w := by simpa using written
      rw [same]
      exact .exchanged (by simpa using allowed)
  match t, unique, shape, leaves, leaf with
  | .arr es, unique, shape, leaves, _ =>
      cases t' with
      | arr es' =>
          refine .arr (by simpa [outline] using shape.outline_eq.symm) ?_
          intro i e e' found found'
          -- What is known of places in the arrays is known of places in their elements.
          have below (m : Location) : (Json.arr es).get? (.index i :: m) = e.get? m := by
            simp [get?_cons, child?, element?, found]
          have below' (m : Location) : (Json.arr es').get? (.index i :: m) = e'.get? m := by
            simp [get?_cons, child?, element?, found']
          apply differs_of_leaves (l ++ [Step.index i]) (unique.of_element found)
          · intro m
            rw [← below, ← below']
            exact shape (.index i :: m)
          · intro m v there leaf
            rw [← below] at there
            simpa [below'] using leaves (.index i :: m) v there leaf
      | _ =>
          exact absurd shape.outline_eq (by simp [outline])
  | .obj ms, unique, shape, leaves, _ =>
      cases t' with
      | obj ms' =>
          have keys : Members.keys ms' = Members.keys ms := by
            simpa [outline] using shape.outline_eq.symm
          have unique' : (Members.keys ms').Nodup := keys ▸ unique.1
          refine .obj keys ?_
          intro i k v v' found found'
          -- Here the keys have to be unique: a place is found by its key, not by its position.
          have below (m : Location) : (Json.obj ms).get? (.key k :: m) = v.get? m := by
            simp [get?_cons, child?, member?, Members.get?_of_getElem? unique.1 found]
          have below' (m : Location) : (Json.obj ms').get? (.key k :: m) = v'.get? m := by
            simp [get?_cons, child?, member?, Members.get?_of_getElem? unique' found']
          apply differs_of_leaves (l ++ [Step.key k]) (unique.of_member found)
          · intro m
            rw [← below, ← below']
            exact shape (.key k :: m)
          · intro m v there leaf
            rw [← below] at there
            simpa [below'] using leaves (.key k :: m) v there leaf
      | _ =>
          exact absurd shape.outline_eq (by simp [outline])
  | .null, _, _, _, leaf | .bool _, _, _, _, leaf | .num _, _, _, _, leaf
  | .str _, _, _, _, leaf =>
      exact leaf rfl
termination_by sizeOf t
decreasing_by
  · have inside : sizeOf e < sizeOf es := List.sizeOf_lt_of_mem (List.mem_of_getElem? found)
    simp only [Json.arr.sizeOf_spec]
    omega
  · have inside : sizeOf (k, v) < sizeOf ms := List.sizeOf_lt_of_mem (List.mem_of_getElem? found)
    simp only [Json.obj.sizeOf_spec, Prod.mk.sizeOf_spec] at inside ⊢
    omega

end Json
end RefFrame
