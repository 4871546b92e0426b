import RefFrame.Json.Location

/-!
# Reading and writing at locations

A location that exists can be written, and a write is a local affair: the value is read back where
it was written, a location apart from it reads as before, and writing what is there already changes
nothing.

The laws are proved one step at a time: for the children of a tree (`child?`, `setChild`) first, and
along a location by induction on its steps.
-/

namespace RefFrame

namespace Members

variable {ms : Members} {k k' : String} {v w : Json}

theorem get?_isSome_iff : (ms.get? k).isSome ↔ k ∈ ms.keys := by
  simp [get?, keys]

theorem mem_keys_of_get? (h : ms.get? k = some v) : k ∈ ms.keys := by
  have some_value : (ms.get? k).isSome := by simp [h]
  exact get?_isSome_iff.1 some_value

theorem insert_eq_self (h : ms.get? k = some v) : ms.insert k v = ms := by
  induction ms with
  | nil =>
      simp [get?] at h
  | cons m rest ih =>
      rcases m with ⟨k₀, v₀⟩
      by_cases hk : k₀ = k
      · -- The first member with the key is the one that is read and the one that is replaced.
        subst hk
        have value : v₀ = v := by simpa [get?] using h
        simp [insert, value]
      · have hk' : ¬ k = k₀ := fun e => hk e.symm
        have found : get? rest k = some v := by
          simpa [get?, List.lookup_cons, beq_false_of_ne hk'] using h
        simp [insert, hk, ih found]

theorem keys_insert_of_get? {old : Json} (h : ms.get? k = some old) :
    (ms.insert k v).keys = ms.keys := by
  rw [keys_insert, if_pos (mem_keys_of_get? h)]

theorem get?_insert_self : (ms.insert k v).get? k = some v := by
  rw [get?_insert, if_pos rfl]

theorem get?_insert_of_ne (h : k' ≠ k) : (ms.insert k v).get? k' = ms.get? k' := by
  rw [get?_insert, if_neg h]

theorem insert_insert : (ms.insert k v).insert k w = ms.insert k w := by
  induction ms with
  | nil =>
      simp [insert]
  | cons m rest ih =>
      rcases m with ⟨k₀, v₀⟩
      by_cases hk : k₀ = k
      · simp [insert, hk]
      · simp [insert, hk, ih]

/-- Values under two keys can be put in in either order, if one of the keys has its place already:
two new keys would be appended in the order in which they come. -/
theorem insert_comm (ne : k ≠ k') (there : k ∈ ms.keys) :
    (ms.insert k v).insert k' w = (ms.insert k' w).insert k v := by
  induction ms with
  | nil =>
      cases there
  | cons m rest ih =>
      rcases m with ⟨k₀, v₀⟩
      by_cases first : k₀ = k
      · subst first
        simp [insert, ne]
      · have later : k ∈ keys rest := by
          rcases List.mem_cons.1 there with same | later
          · exact absurd same.symm first
          · exact later
        by_cases other : k₀ = k'
        · subst other
          simp [insert, first]
        · simp [insert, first, other, ih later]

end Members

namespace Location

variable {s s' : Step} {l l' : Location}

theorem apart_cons_of_ne (h : s ≠ s') : Apart (s :: l) (s' :: l') := by
  rintro (⟨m, hm⟩ | ⟨m, hm⟩)
  · exact h (by simpa using (List.cons.inj hm).1)
  · exact h (by simpa using (List.cons.inj hm).1.symm)

theorem apart_cons_cons : Apart (s :: l) (s :: l') ↔ Apart l l' := by
  simp [Apart, Related, List.cons_prefix_cons]

/-- Behind a common beginning, locations are apart as they are without it. -/
theorem apart_append_append (above : Location) :
    Apart (above ++ l) (above ++ l') ↔ Apart l l' := by
  simp [Apart, Related, List.prefix_append_right_inj]

theorem Apart.symm (h : Apart l l') : Apart l' l :=
  fun related => h related.symm

instance : Std.Symm Apart :=
  ⟨fun _ _ h => h.symm⟩

theorem Apart.append (h : Apart l l') (m m' : Location) : Apart (l ++ m) (l' ++ m') := by
  -- Two locations on the way to one and the same are on the way to each other.
  intro related
  apply h
  rcases related with ahead | ahead
  · exact List.prefix_or_prefix_of_prefix ((List.prefix_append l m).trans ahead)
      (List.prefix_append l' m')
  · exact List.prefix_or_prefix_of_prefix (List.prefix_append l m)
      ((List.prefix_append l' m').trans ahead)

theorem Apart.ne (h : Apart l l') : l ≠ l' := by
  rintro rfl
  exact h (Or.inl (List.prefix_refl l))

theorem not_apart_nil : ¬ Apart [] l := by
  intro h
  exact h (Or.inl (List.nil_prefix))

/-- One location comes before another in a document: where the two part, it goes into an earlier element
of an array. -/
def Precedes (l l' : Location) : Prop :=
  ∃ (above : Location) (i j : Nat),
    i < j ∧ above ++ [.index i] <+: l ∧ above ++ [.index j] <+: l'

theorem precedes_of_index_lt {i j : Nat} (h : i < j) : Precedes [.index i] [.index j] :=
  ⟨[], i, j, h, List.prefix_rfl, List.prefix_rfl⟩

theorem Precedes.append (h : Precedes l l') (m m' : Location) : Precedes (l ++ m) (l' ++ m') := by
  rcases h with ⟨above, i, j, lt, left, right⟩
  exact ⟨above, i, j, lt, left.trans (List.prefix_append l m), right.trans (List.prefix_append l' m')⟩

theorem Precedes.under (h : Precedes l l') (above : Location) :
    Precedes (above ++ l) (above ++ l') := by
  rcases h with ⟨between, i, j, lt, left, right⟩
  refine ⟨above ++ between, i, j, lt, ?_, ?_⟩
  · rw [List.append_assoc]
    exact (List.prefix_append_right_inj above).2 left
  · rw [List.append_assoc]
    exact (List.prefix_append_right_inj above).2 right

/-- What parts at two elements of an array is apart. -/
theorem Precedes.apart (h : Precedes l l') : Apart l l' := by
  rcases h with ⟨above, i, j, lt, ⟨m, rfl⟩, ⟨m', rfl⟩⟩
  have elements : Apart [.index i] [.index j] := by
    apply apart_cons_of_ne
    intro same
    have index : i = j := Step.index.inj same
    omega
  exact ((apart_append_append above).2 elements).append m m'

end Location

namespace Json

open Location

variable {t t' c v w : Json} {s s' : Step} {l l' : Location}

/-! ## One step -/

theorem child?_setChild_self (h : t.child? s = some c) : (t.setChild s v).child? s = some v := by
  cases t with
  | obj ms =>
      cases s with
      | key k =>
          simp [setChild, child?, member?, Members.get?_insert]
      | index i =>
          simp [child?, element?] at h
  | arr es =>
      cases s with
      | key k =>
          simp [child?, member?] at h
      | index i =>
          have inside : i < es.length := by
            have found : es[i]? = some c := by simpa [child?, element?] using h
            exact (List.getElem?_eq_some_iff.1 found).1
          simp [setChild, child?, element?, inside]
  | _ =>
      cases s <;> simp [child?, member?, element?] at h

theorem child?_setChild_of_ne (h : s ≠ s') : (t.setChild s v).child? s' = t.child? s' := by
  cases t with
  | obj ms =>
      cases s with
      | key k =>
          cases s' with
          | key k' =>
              have other : ¬ k' = k := fun e => h (by rw [e])
              simp [setChild, child?, member?, Members.get?_insert, other]
          | index i =>
              rfl
      | index i =>
          rfl
  | arr es =>
      cases s with
      | key k =>
          rfl
      | index i =>
          cases s' with
          | key k =>
              rfl
          | index j =>
              have other : i ≠ j := fun e => h (by rw [e])
              simp [setChild, child?, element?, List.getElem?_set_ne other]
  | _ =>
      cases s <;> rfl

theorem setChild_eq_self (h : t.child? s = some c) : t.setChild s c = t := by
  cases t with
  | obj ms =>
      cases s with
      | key k =>
          have found : Members.get? ms k = some c := by simpa [child?, member?] using h
          simp [setChild, Members.insert_eq_self found]
      | index i =>
          rfl
  | arr es =>
      cases s with
      | key k =>
          rfl
      | index i =>
          have found : es[i]? = some c := by simpa [child?, element?] using h
          rcases List.getElem?_eq_some_iff.1 found with ⟨inside, value⟩
          simp [setChild, ← value]
  | _ =>
      cases s <;> rfl

theorem present?_eq_some {k : String} : t.present? k = some v ↔ t.member? k = some v ∧ v ≠ .null := by
  cases found : t.member? k with
  | none =>
      simp [present?, found]
  | some w =>
      cases w <;> simp [present?, found] <;> rintro rfl <;> simp

/-! ## Along a location -/

theorem get?_append (t : Json) (l l' : Location) :
    t.get? (l ++ l') = (t.get? l).bind fun c => c.get? l' := by
  induction l generalizing t with
  | nil =>
      simp
  | cons s rest ih =>
      cases h : t.child? s with
      | none =>
          simp [get?_cons, h]
      | some c =>
          simp [get?_cons, h, ih]

theorem replace?_isSome_iff : (t.replace? l v).isSome ↔ (t.get? l).isSome := by
  induction l generalizing t with
  | nil =>
      simp
  | cons s rest ih =>
      cases h : t.child? s with
      | none =>
          simp [get?_cons, replace?_cons, h]
      | some c =>
          have rebuilt : ((c.replace? rest v).bind fun c' => some (t.setChild s c')).isSome =
              (c.replace? rest v).isSome := by
            cases c.replace? rest v <;> rfl
          simpa [get?_cons, replace?_cons, h, rebuilt] using ih (t := c)

theorem exists_replace? (h : t.get? l = some w) (v : Json) : ∃ t', t.replace? l v = some t' := by
  have there : (t.get? l).isSome := by simp [h]
  exact Option.isSome_iff_exists.1 (replace?_isSome_iff.2 there)

theorem replace?_cons_eq_some :
    t.replace? (s :: l) v = some t' ↔
      ∃ c c', t.child? s = some c ∧ c.replace? l v = some c' ∧ t.setChild s c' = t' := by
  rw [replace?_cons]
  cases h : t.child? s with
  | none =>
      simp
  | some c =>
      simp [Option.bind_eq_some_iff]

/-- What is written is read back, at its location and below. -/
theorem get?_replace?_append (h : t.replace? l v = some t') (l' : Location) :
    t'.get? (l ++ l') = v.get? l' := by
  induction l generalizing t t' with
  | nil =>
      obtain rfl : v = t' := by simpa using h
      rfl
  | cons s rest ih =>
      -- The write has put a new child in the place of the old one, and we look into that child.
      rcases replace?_cons_eq_some.1 h with ⟨c, c', child, below, rfl⟩
      simpa [get?_cons, child?_setChild_self child] using ih below

theorem get?_replace?_self (h : t.replace? l v = some t') : t'.get? l = some v := by
  simpa using get?_replace?_append h []

/-- A location apart from the written one reads as before. -/
theorem get?_replace?_of_apart (h : t.replace? l v = some t') (apart : Apart l l') :
    t'.get? l' = t.get? l' := by
  induction l generalizing t t' l' with
  | nil =>
      exact absurd apart not_apart_nil
  | cons s rest ih =>
      rcases replace?_cons_eq_some.1 h with ⟨c, c', child, below, rfl⟩
      cases l' with
      | nil =>
          exact absurd apart.symm not_apart_nil
      | cons s' rest' =>
          by_cases hs : s = s'
          · -- The locations part further down.
            subst hs
            have rest_apart : Apart rest rest' := apart_cons_cons.1 apart
            simpa [get?_cons, child?_setChild_self child, child] using ih below rest_apart
          · -- The locations part here, and the other child has not been touched.
            simp [get?_cons, child?_setChild_of_ne hs]

theorem replace?_eq_self (h : t.get? l = some v) : t.replace? l v = some t := by
  induction l generalizing t with
  | nil =>
      simpa using h.symm
  | cons s rest ih =>
      rcases Option.bind_eq_some_iff.1 (get?_cons t s rest ▸ h) with ⟨c, child, below⟩
      exact replace?_cons_eq_some.2 ⟨c, c, child, ih below, setChild_eq_self child⟩

end Json
end RefFrame
