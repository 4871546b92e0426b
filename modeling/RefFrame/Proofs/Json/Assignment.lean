import RefFrame.Proofs.Json.Writes

/-!
# Writing in place

A tree can be written in place: one goes down from the root step by step, holding the part that has been
come to (`Slot`), and puts the new value there (`Json.assign`). If a step leads nowhere, nothing has been
touched yet.

That comes to the same as `Json.replace?`, which builds the tree anew on the way back (`run_assign`). So
either way of writing obeys the laws of an update of one place: `Json.assign_lawful`.
-/

namespace RefFrame

/-- A part of a tree that is held for writing, with the tree around it, which waits for a value. -/
structure Slot where
  value : Json
  around : Json → Json

namespace Slot

def root (t : Json) : Slot :=
  ⟨t, id⟩

/-- Goes on to a child that is there. -/
def child? (p : Slot) (s : Step) : Option Slot :=
  (p.value.child? s).map fun c => ⟨c, fun v => p.around (p.value.setChild s v)⟩

/-- Goes on along a location. -/
def descend? (p : Slot) (l : Location) : Option Slot :=
  l.foldlM child? p

theorem descend?_cons (p : Slot) (s : Step) (l : Location) :
    p.descend? (s :: l) = (p.child? s).bind fun q => q.descend? l := rfl

end Slot

namespace Json

open Location

variable {t t' t'' c v w : Json} {l l' : Location}

/-- Writes a value at a location of the tree, and tells whether there is such a location. -/
def assign (l : Location) (v : Json) : StateM Json Bool := do
  match (Slot.root (← get)).descend? l with
  | some p =>
    set (p.around v)
    return true
  | none => return false

/-! ## Going down and building anew -/

/-- What is put into the part that one has come to is put into the whole. -/
theorem map_around_descend? (p : Slot) (l : Location) (v : Json) :
    (p.descend? l).map (fun q => q.around v) = (p.value.replace? l v).map p.around := by
  -- The part that is held is general, as each step goes on to another one.
  induction l generalizing p with
  | nil =>
      rfl
  | cons s rest ih =>
      rw [Slot.descend?_cons, Slot.child?, replace?_cons]
      cases p.value.child? s with
      | none =>
          rfl
      | some c =>
          have below := ih ⟨c, fun v => p.around (p.value.setChild s v)⟩
          cases written : c.replace? rest v with
          | none =>
              simpa [written] using below
          | some c' =>
              simpa [written] using below

/-- Writing in place leaves what replacing gives, or the tree as it was. -/
theorem run_assign (t : Json) (l : Location) (v : Json) :
    (assign l v).run t = ((t.replace? l v).isSome, (t.replace? l v).getD t) := by
  have built : ((Slot.root t).descend? l).map (fun q => q.around v) = t.replace? l v := by
    simpa [Slot.root] using map_around_descend? (Slot.root t) l v
  rw [← built]
  simp only [assign, StateT.run, bind, StateT.bind, get, getThe, MonadStateOf.get, StateT.get, pure]
  cases (Slot.root t).descend? l <;> rfl

theorem run_assign_of_replace? (h : t.replace? l v = some t') : (assign l v).run t = (true, t') := by
  rw [run_assign, h]
  rfl

theorem replace?_eq_none_of_get? (h : t.get? l = none) : t.replace? l v = none := by
  rw [← Option.not_isSome_iff_eq_none, replace?_isSome_iff, h]
  decide

theorem run_assign_of_get?_eq_none (h : t.get? l = none) : (assign l v).run t = (false, t) := by
  rw [run_assign, replace?_eq_none_of_get? h]
  rfl

/-! ## The laws -/

/-- Of two values for one place the second one stays. -/
theorem replace?_replace? (h : t.replace? l v = some t') : t'.replace? l w = t.replace? l w := by
  induction l generalizing t t' with
  | nil =>
      rfl
  | cons s rest ih =>
      rcases replace?_cons_eq_some.1 h with ⟨c, c', child, below, rfl⟩
      rw [replace?_cons, replace?_cons, child?_setChild_self child, child, Option.bind_some,
        Option.bind_some, ih below]
      simp only [setChild_setChild]

theorem run_assign_assign (t : Json) (l : Location) (v w : Json) :
    (do let _ ← assign l v; assign l w).run t = (assign l w).run t := by
  rw [StateT.run_bind]
  cases found : t.get? l with
  | none =>
      rw [run_assign_of_get?_eq_none found]
      rfl
  | some old =>
      rcases exists_replace? found v with ⟨t', written⟩
      rcases exists_replace? found w with ⟨t'', rewritten⟩
      have later : t'.replace? l w = some t'' := (replace?_replace? written).trans rewritten
      rw [run_assign_of_replace? written, run_assign_of_replace? rewritten]
      exact run_assign_of_replace? later

/-- Two writes, with both answers. -/
def assignBoth (l l' : Location) (v w : Json) : StateM Json (Bool × Bool) := do
  let first ← assign l v
  let second ← assign l' w
  return (first, second)

theorem run_assignBoth {first second : Bool} (h : (assign l v).run t = (first, t'))
    (h' : (assign l' w).run t' = (second, t'')) :
    (assignBoth l l' v w).run t = ((first, second), t'') := by
  rw [assignBoth, StateT.run_bind, h]
  exact (StateT.run_bind _ _ _).trans (by rw [h']; rfl)

/-- Writes at places apart find the same whichever comes first, and leave the same. -/
theorem run_assignBoth_comm (apart : Apart l l') (t v w : Json) :
    ∃ first second u, (assignBoth l l' v w).run t = ((first, second), u) ∧
      (assignBoth l' l w v).run t = ((second, first), u) := by
  cases found : t.get? l with
  | none =>
      cases found' : t.get? l' with
      | none =>
          have refused := run_assign_of_get?_eq_none (v := v) found
          have refused' := run_assign_of_get?_eq_none (v := w) found'
          exact ⟨_, _, _, run_assignBoth refused refused', run_assignBoth refused' refused⟩
      | some old' =>
          -- The other write does not make the missing place.
          rcases exists_replace? found' w with ⟨t', written⟩
          have still : t'.get? l = none := by
            rw [get?_replace?_of_apart written apart.symm, found]
          have done := run_assign_of_replace? written
          exact ⟨_, _, _, run_assignBoth (run_assign_of_get?_eq_none found) done,
            run_assignBoth done (run_assign_of_get?_eq_none still)⟩
  | some old =>
      rcases exists_replace? found v with ⟨t', written⟩
      have done := run_assign_of_replace? written
      cases found' : t.get? l' with
      | none =>
          have still : t'.get? l' = none := by
            rw [get?_replace?_of_apart written apart, found']
          exact ⟨_, _, _, run_assignBoth done (run_assign_of_get?_eq_none still),
            run_assignBoth (run_assign_of_get?_eq_none found') done⟩
      | some old' =>
          rcases exists_replace? found' w with ⟨t'', written'⟩
          rcases replace?_comm written written' apart with ⟨u, second, first⟩
          exact ⟨_, _, u, run_assignBoth done (run_assign_of_replace? second),
            run_assignBoth (run_assign_of_replace? written') (run_assign_of_replace? first)⟩

/-- What a write in place has answered and left. -/
structure Assigned (l : Location) (v t : Json) (done : Bool) (t' : Json) : Prop where
  built : t.replace? l v = if done then some t' else none
  answer : done = true ↔ ∃ old, t.get? l = some old
  refused : done = false → t' = t
  value : done = true → t'.get? l = some v
  unchanged : t.get? l = some v → t' = t
  elsewhere : ∀ l', Apart l l' → t'.get? l' = t.get? l'
  above : ∀ l', l' <+: l → l' ≠ l → (t'.get? l').map outline = (t.get? l').map outline

theorem exists_assigned (t : Json) (l : Location) (v : Json) :
    ∃ done t', (assign l v).run t = (done, t') ∧ Assigned l v t done t' := by
  cases found : t.get? l with
  | none =>
      refine ⟨false, t, run_assign_of_get?_eq_none found, ?_⟩
      exact
        { built := replace?_eq_none_of_get? found
          answer := by simp [found]
          refused := fun _ => rfl
          value := nofun
          unchanged := fun _ => rfl
          elsewhere := fun _ _ => rfl
          above := fun _ _ _ => rfl }
  | some old =>
      rcases exists_replace? found v with ⟨t', written⟩
      refine ⟨true, t', run_assign_of_replace? written, ?_⟩
      exact
        { built := written
          answer := by simp [found]
          refused := nofun
          value := fun _ => get?_replace?_self written
          unchanged := fun same => Option.some.inj (written.symm.trans (replace?_eq_self same))
          elsewhere := fun l' apart => get?_replace?_of_apart written apart
          above := by
            intro l' on_the_way other
            refine outline_replace? written fun beyond => other ?_
            exact on_the_way.eq_of_length (Nat.le_antisymm on_the_way.length_le beyond.length_le) }

/-- A write in place succeeds exactly where there is something to write over, and is refused without a
trace elsewhere. It leaves its value at the location and the same containers above it, and all that is
neither above nor below as it was. Only the last of several values for one place counts, and writes at
places apart can be made in either order. -/
theorem assign_lawful (t : Json) (l : Location) (v : Json) :
    (∃ done t', (assign l v).run t = (done, t') ∧ Assigned l v t done t') ∧
      (∀ w, (do let _ ← assign l v; assign l w).run t = (assign l w).run t) ∧
      ∀ l' w, Apart l l' → ∃ first second u, (assignBoth l l' v w).run t = ((first, second), u) ∧
        (assignBoth l' l w v).run t = ((second, first), u) :=
  ⟨exists_assigned t l v, fun w => run_assign_assign t l v w,
    fun _ w apart => run_assignBoth_comm apart t v w⟩

/-- Rows with members in no particular order. -/
def unordered : Json :=
  .obj [("z", .null), ("rows", .arr [.obj [("x", ofInt 1), ("y", ofInt 2)], .str "end"]), ("a", .bool true)]

/-- A member of a row is written. The other member and the row behind it stay, and so does the order of the
members around it. There is no member in the second row, which is a text. -/
theorem assign_lawful_unordered :
    ∃ t', (assign [.key "rows", .index 0, .key "x"] (ofInt 10)).run unordered = (true, t') ∧
      t'.get? [.key "rows", .index 0, .key "x"] = some (ofInt 10) ∧
      t'.get? [.key "rows", .index 0, .key "y"] = some (ofInt 2) ∧
      t'.outline = .object ["z", "rows", "a"] ∧
      (assign [.key "rows", .index 1, .key "x"] (ofInt 10)).run unordered = (false, unordered) := by
  rcases assign_lawful unordered [.key "rows", .index 0, .key "x"] (ofInt 10) with
    ⟨⟨done, t', ran, written⟩, -, -⟩
  rcases assign_lawful unordered [.key "rows", .index 1, .key "x"] (ofInt 10) with
    ⟨⟨done', t'', ran', refused⟩, -, -⟩
  obtain rfl : done = true := written.answer.2 ⟨ofInt 1, rfl⟩
  obtain rfl : done' = false := by
    cases done' with
    | false =>
        rfl
    | true =>
        rcases refused.answer.1 rfl with ⟨old, found⟩
        cases found
  have apart : Apart [.key "rows", .index 0, .key "x"] [.key "rows", .index 0, .key "y"] := by
    decide
  have root := written.above [] List.nil_prefix (by simp)
  refine ⟨t', ran, written.value rfl, ?_, ?_, ?_⟩
  · exact (written.elsewhere _ apart).trans rfl
  · exact Option.some.inj root
  · rw [ran', refused.refused rfl]

end Json
end RefFrame
