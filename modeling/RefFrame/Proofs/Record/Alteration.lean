import RefFrame.Proofs.PropertyPath.Matches
import RefFrame.Record.Outcome

/-!
# What a pass may alter

A pass rewrites leaves of the data and nothing else: the pass for units turns quantities into
floats, the pass for dates turns texts into texts. `Altered p A t t'` says that `t'` comes from `t`
by rewriting leaves in the way of `p` at places with `A`. The relation holds of one write
(`altered_replace?`) and of any number of them (`Altered.trans`).
-/

namespace RefFrame

namespace Pass

variable {p : Pass} {v w x : Json}

/-- How a pass may rewrite a value. -/
def Rewrites : Pass → Json → Json → Prop
  | unit, v, w => v.quantity?.isSome ∧ ∃ x : Float, x.isFinite ∧ w = .num (.float x)
  | dateTime, v, w => (∃ s, v = .str s) ∧ ∃ s, w = .str s

theorem Rewrites.isLeaf_left (h : p.Rewrites v w) : v.IsLeaf := by
  cases p with
  | unit =>
      rcases h with ⟨quantity, -⟩
      cases v with
      | arr es =>
          simp [Json.quantity?] at quantity
      | obj ms =>
          simp [Json.quantity?] at quantity
      | _ =>
          rfl
  | dateTime =>
      rcases h with ⟨⟨s, rfl⟩, -⟩
      rfl

theorem Rewrites.isLeaf_right (h : p.Rewrites v w) : w.IsLeaf := by
  cases p with
  | unit =>
      rcases h with ⟨-, x, -, rfl⟩
      rfl
  | dateTime =>
      rcases h with ⟨-, s, rfl⟩
      rfl

theorem Rewrites.trans (h : p.Rewrites v w) (h' : p.Rewrites w x) : p.Rewrites v x := by
  cases p with
  | unit =>
      exact ⟨h.1, h'.2⟩
  | dateTime =>
      exact ⟨h.1, h'.2⟩

/-- What has become a float is no text: dates are not looked for in quantities. -/
theorem Rewrites.not_unit_dateTime (h : unit.Rewrites v w) : ¬ dateTime.Rewrites w x := by
  rcases h with ⟨-, x, -, rfl⟩
  rintro ⟨⟨s, text⟩, -⟩
  cases text

end Pass

namespace Json

/-- The second tree has the shape of the first, and a leaf that differs has been rewritten by the
pass at a place with `A`. -/
structure Altered (p : Pass) (A : Location → Prop) (t t' : Json) : Prop where
  sameShape : SameShape t t'
  leaf : ∀ {l v}, t.get? l = some v → v.IsLeaf →
    t'.get? l = some v ∨ ∃ w, t'.get? l = some w ∧ A l ∧ p.Rewrites v w

variable {p : Pass} {A B : Location → Prop} {t t' t'' v w : Json} {l : Location}

theorem Altered.refl (p : Pass) (A : Location → Prop) (t : Json) : Altered p A t t :=
  ⟨SameShape.refl t, fun there _ => Or.inl there⟩

theorem Altered.mono (h : Altered p A t t') (sub : ∀ l, A l → B l) : Altered p B t t' := by
  refine ⟨h.sameShape, ?_⟩
  intro l v there leaf
  rcases h.leaf there leaf with same | ⟨w, there', allowed, rewritten⟩
  · exact Or.inl same
  · exact Or.inr ⟨w, there', sub l allowed, rewritten⟩

theorem Altered.trans (h : Altered p A t t') (h' : Altered p A t' t'') : Altered p A t t'' := by
  refine ⟨h.sameShape.trans h'.sameShape, ?_⟩
  intro l v there leaf
  rcases h.leaf there leaf with same | ⟨w, there', allowed, rewritten⟩
  · exact h'.leaf same leaf
  · -- Rewritten in the first step, and perhaps again in the second.
    rcases h'.leaf there' rewritten.isLeaf_right with same | ⟨x, there'', -, again⟩
    · exact Or.inr ⟨w, same, allowed, rewritten⟩
    · exact Or.inr ⟨x, there'', allowed, rewritten.trans again⟩

theorem Altered.get?_of_not (h : Altered p A t t') (there : t.get? l = some v) (leaf : v.IsLeaf)
    (other : ¬ A l) : t'.get? l = some v := by
  rcases h.leaf there leaf with same | ⟨w, -, allowed, -⟩
  · exact same
  · exact absurd allowed other

theorem Altered.get?_of_not_rewrites (h : Altered p A t t') (there : t.get? l = some v)
    (leaf : v.IsLeaf) (other : ∀ w, ¬ p.Rewrites v w) : t'.get? l = some v := by
  rcases h.leaf there leaf with same | ⟨w, -, -, rewritten⟩
  · exact same
  · exact absurd rewritten (other w)

theorem Altered.ne_null (h : Altered p A t t') (there : t ≠ .null) : t' ≠ .null := by
  rintro rfl
  -- What has come out as a leaf was one, and neither pass writes a `null`.
  have leaf : t.IsLeaf := h.sameShape.isLeaf_iff.2 rfl
  rcases h.leaf (l := []) rfl leaf with same | ⟨w, written, -, rewritten⟩
  · exact there (Option.some.inj same).symm
  · obtain rfl : Json.null = w := Option.some.inj written
    cases p with
    | unit =>
        rcases rewritten with ⟨-, x, -, number⟩
        cases number
    | dateTime =>
        rcases rewritten with ⟨-, s, text⟩
        cases text

theorem altered_replace? (there : t.get? l = some v) (rewritten : p.Rewrites v w) (allowed : A l)
    (h : t.replace? l w = some t') : Altered p A t t' := by
  refine ⟨sameShape_replace? h there rewritten.isLeaf_left rewritten.isLeaf_right, ?_⟩
  intro l' v' there' leaf'
  by_cases same : l = l'
  · -- The written place itself.
    subst same
    rw [there] at there'
    cases there'
    exact Or.inr ⟨w, get?_replace?_self h, allowed, rewritten⟩
  · exact Or.inl (get?_replace?_of_leaf_ne h there rewritten.isLeaf_left there' leaf' same)

end Json
end RefFrame
