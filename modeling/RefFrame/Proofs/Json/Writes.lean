import RefFrame.Proofs.Json.Shape

/-!
# Several writes

Writes at places apart from each other do not get in each other's way: they can be made in either
order (`Json.replace?_comm`), and a row of them leaves each value where it was written and everything
else as it was (`Json.exists_replaceEach?`).
-/

namespace RefFrame

namespace Location

/-- What stands at some locations, seen from a step above. -/
def below {β : Type} (s : Step) (ps : List (Location × β)) : List (Location × β) :=
  ps.map fun p => (s :: p.1, p.2)

@[simp] theorem map_snd_below {β : Type} (s : Step) (ps : List (Location × β)) :
    (below s ps).map Prod.snd = ps.map Prod.snd := by
  simp [below]

end Location

namespace Json

open Location

variable {t t' t'' c c' v w : Json} {s s' : Step} {l l' : Location}
  {ws ws' : List (Location × Json)}

/-! ## Two writes -/

theorem setChild_setChild : (t.setChild s v).setChild s w = t.setChild s w := by
  cases t with
  | obj ms =>
      cases s with
      | key k =>
          simp [setChild, Members.insert_insert]
      | index i =>
          rfl
  | arr es =>
      cases s with
      | key k =>
          rfl
      | index i =>
          simp [setChild]
  | _ =>
      cases s <;> rfl

theorem setChild_comm (ne : s ≠ s') (there : t.child? s = some c) :
    (t.setChild s v).setChild s' w = (t.setChild s' w).setChild s v := by
  cases t with
  | obj ms =>
      cases s with
      | key k =>
          cases s' with
          | key k' =>
              have other : k ≠ k' := fun e => ne (by rw [e])
              have found : Members.get? ms k = some c := by simpa [child?, member?] using there
              simp [setChild, Members.insert_comm other (Members.mem_keys_of_get? found)]
          | index i =>
              rfl
      | index i =>
          cases s' <;> rfl
  | arr es =>
      cases s with
      | key k =>
          cases s' <;> rfl
      | index i =>
          cases s' with
          | key k =>
              rfl
          | index j =>
              have other : i ≠ j := fun e => ne (by rw [e])
              simp [setChild, List.set_comm _ _ other]
  | _ =>
      cases s <;> cases s' <;> rfl

/-- Two places apart can be written in either order. -/
theorem replace?_comm (h : t.replace? l v = some t') (h' : t.replace? l' w = some t'')
    (apart : Apart l l') : ∃ u, t'.replace? l' w = some u ∧ t''.replace? l v = some u := by
  induction l generalizing t t' t'' l' with
  | nil =>
      exact absurd apart not_apart_nil
  | cons s rest ih =>
      cases l' with
      | nil =>
          exact absurd apart.symm not_apart_nil
      | cons s' rest' =>
          rcases replace?_cons_eq_some.1 h with ⟨c, c₁, child, below, rfl⟩
          rcases replace?_cons_eq_some.1 h' with ⟨c', c₂, child', below', rfl⟩
          by_cases hs : s = s'
          · -- The locations part further down, in the same child.
            subst hs
            obtain rfl : c = c' := by simpa [child'] using child.symm
            rcases ih below below' (apart_cons_cons.1 apart) with ⟨u, first, second⟩
            refine ⟨t.setChild s u, ?_, ?_⟩
            · exact replace?_cons_eq_some.2
                ⟨c₁, u, child?_setChild_self child, first, setChild_setChild⟩
            · exact replace?_cons_eq_some.2
                ⟨c₂, u, child?_setChild_self child, second, setChild_setChild⟩
          · -- The locations part here, and each write finds its own child untouched.
            have keep : (t.setChild s c₁).child? s' = some c' := by
              rw [child?_setChild_of_ne hs, child']
            have keep' : (t.setChild s' c₂).child? s = some c := by
              rw [child?_setChild_of_ne fun e => hs e.symm, child]
            refine ⟨(t.setChild s c₁).setChild s' c₂, ?_, ?_⟩
            · exact replace?_cons_eq_some.2 ⟨c', c₂, keep, below', rfl⟩
            · exact replace?_cons_eq_some.2 ⟨c, c₁, keep', below, (setChild_comm hs child).symm⟩

/-- A write keeps the containers on the way to it, and those that are not on the way. -/
theorem outline_replace? (h : t.replace? l v = some t') (outside : ¬ l <+: l') :
    (t'.get? l').map outline = (t.get? l').map outline := by
  induction l generalizing t t' l' with
  | nil =>
      exact absurd List.nil_prefix outside
  | cons s rest ih =>
      rcases replace?_cons_eq_some.1 h with ⟨c, c', child, below, rfl⟩
      cases l' with
      | nil =>
          simp [outline_setChild child]
      | cons s' rest' =>
          by_cases hs : s = s'
          · subst hs
            have further : ¬ rest <+: rest' := by
              simpa [List.cons_prefix_cons] using outside
            simpa [get?_cons, child?_setChild_self child, child] using ih below further
          · simp [get?_cons, child?_setChild_of_ne hs]

/-! ## A row of writes -/

/-- The tree with the parts at some locations replaced one after the other; fails as soon as one of
the locations is not there. -/
def replaceEach? (t : Json) (ws : List (Location × Json)) : Option Json :=
  ws.foldlM (fun t w => t.replace? w.1 w.2) t

theorem replaceEach?_cons (first : t.replace? l v = some t') :
    t.replaceEach? ((l, v) :: ws) = t'.replaceEach? ws := by
  simp only [replaceEach?, List.foldlM_cons, first, Option.bind_eq_bind, Option.bind_some]

theorem replaceEach?_append (first : t.replaceEach? ws = some t') :
    t.replaceEach? (ws ++ ws') = t'.replaceEach? ws' := by
  rw [replaceEach?] at first
  simp only [replaceEach?, List.foldlM_append, first, Option.bind_eq_bind, Option.bind_some]

/-- A row of writes below a step is the row in the child there. -/
theorem replaceEach?_below (child : t.child? s = some c) (done : c.replaceEach? ws = some c') :
    t.replaceEach? (below s ws) = some (t.setChild s c') := by
  induction ws generalizing t c with
  | nil =>
      obtain rfl : c = c' := Option.some.inj done
      exact congrArg some (setChild_eq_self child).symm
  | cons w ws ih =>
      rcases Option.bind_eq_some_iff.1 done with ⟨c₁, first, rest⟩
      have here : t.replace? (s :: w.1) w.2 = some (t.setChild s c₁) :=
        replace?_cons_eq_some.2 ⟨c, c₁, child, first, rfl⟩
      -- The other writes find the child as the first one has left it.
      have later := ih (child?_setChild_self child) rest
      rw [setChild_setChild] at later
      exact (replaceEach?_cons here).trans later

theorem pairwise_apart_below (apart : ws.Pairwise fun w w' => Apart w.1 w'.1) (s : Step) :
    (below s ws).Pairwise fun w w' => Apart w.1 w'.1 :=
  List.pairwise_map.2 (apart.imp fun h => apart_cons_cons.2 h)

/-- What a row of writes has made of a tree. -/
structure Written (ws : List (Location × Json)) (t t' : Json) : Prop where
  value : ∀ w ∈ ws, t'.get? w.1 = some w.2
  elsewhere : ∀ l, (∀ w ∈ ws, Apart w.1 l) → t'.get? l = t.get? l
  outside : SameOutside (ws.map Prod.fst) t t'

/-- Places that are there and pairwise apart can be written one after the other. -/
theorem exists_replaceEach? (there : ∀ w ∈ ws, (t.get? w.1).isSome)
    (apart : ws.Pairwise fun w w' => Apart w.1 w'.1) :
    ∃ t', t.replaceEach? ws = some t' ∧ Written ws t t' := by
  induction ws generalizing t with
  | nil =>
      exact ⟨t, rfl, by simp, fun _ _ => rfl, (SameShape.refl t).sameOutside _⟩
  | cons w ws ih =>
      rcases List.pairwise_cons.1 apart with ⟨first, rest⟩
      rcases Option.isSome_iff_exists.1 (there w List.mem_cons_self) with ⟨old, found⟩
      rcases exists_replace? found w.2 with ⟨t₁, written⟩
      -- The other places have not been touched by the first write.
      have there' : ∀ w' ∈ ws, (t₁.get? w'.1).isSome := by
        intro w' mem
        rw [get?_replace?_of_apart written (first w' mem)]
        exact there w' (List.mem_cons_of_mem w mem)
      rcases ih there' rest with ⟨t', done, result⟩
      refine ⟨t', ?_, ?_, ?_, ?_⟩
      · simpa [replaceEach?, written] using done
      · intro w' mem
        rcases List.mem_cons.1 mem with rfl | later
        · rw [result.elsewhere w'.1 fun w'' mem' => (first w'' mem').symm]
          exact get?_replace?_self written
        · exact result.value w' later
      · intro l others
        rw [result.elsewhere l fun w' mem => others w' (List.mem_cons_of_mem w mem)]
        exact get?_replace?_of_apart written (others w List.mem_cons_self)
      · intro l others
        have own : ¬ w.1 <+: l := others w.1 (by simp)
        have later := result.outside l fun l' mem => others l' (List.mem_cons_of_mem w.1 mem)
        rw [← later, outline_replace? written own]

end Json
end RefFrame
