import RefFrame.Proofs.Json.Location

/-!
# The shape of a tree

Two trees have the same shape when they have the same containers at the same places: arrays of the
same lengths and objects with the same keys in the same order. They may differ in their leaves.

Replacing a leaf by a leaf keeps the shape (`sameShape_replace?`) and touches no other leaf
(`get?_replace?_of_leaf_ne`).
-/

namespace RefFrame

/-- What a tree is apart from what it holds. -/
inductive Outline
  | leaf
  | array (length : Nat)
  | object (keys : List String)
  deriving DecidableEq, Repr

/-- An outline that tells objects from other trees, but not from each other. -/
def Outline.withoutKeys : Outline → Outline
  | object _ => object []
  | o => o

namespace Json

open Location

variable {t t' t'' c v w : Json} {s : Step} {l l' : Location}

/-- A tree that is no container is a leaf. -/
def outline : Json → Outline
  | arr es => .array es.length
  | obj ms => .object (Members.keys ms)
  | _ => .leaf

/-- A tree without parts: `null`, a truth value, a number or a text. -/
def IsLeaf (v : Json) : Prop :=
  v.outline = .leaf

instance (v : Json) : Decidable v.IsLeaf :=
  inferInstanceAs (Decidable (_ = _))

/-- The same places are there in both trees, with the same containers. -/
def SameShape (t t' : Json) : Prop :=
  ∀ l, (t.get? l).map outline = (t'.get? l).map outline

/-- The same places are there in both trees, with containers of the same kinds and arrays of the same
lengths. The keys of an object may come in another order. -/
def SamePlaces (t t' : Json) : Prop :=
  ∀ l, (t.get? l).map (fun v => v.outline.withoutKeys) =
    (t'.get? l).map fun v => v.outline.withoutKeys

/-- Outside of what lies at or below some places, the same places are there with the same
containers. -/
def SameOutside (ls : List Location) (t t' : Json) : Prop :=
  ∀ l, (∀ l' ∈ ls, ¬ l' <+: l) → (t.get? l).map outline = (t'.get? l).map outline

/-! ## Leaves -/

theorem IsLeaf.child?_eq_none (h : t.IsLeaf) (s : Step) : t.child? s = none := by
  cases t with
  | arr es =>
      simp [IsLeaf, outline] at h
  | obj ms =>
      simp [IsLeaf, outline] at h
  | _ =>
      cases s <;> rfl

theorem eq_nil_of_get?_leaf (h : t.IsLeaf) (there : t.get? l = some v) : l = [] := by
  cases l with
  | nil =>
      rfl
  | cons s rest =>
      simp [get?_cons, h.child?_eq_none s] at there

theorem apart_of_leaf (hv : t.get? l = some v) (leaf_v : v.IsLeaf) (hw : t.get? l' = some w)
    (leaf_w : w.IsLeaf) (ne : l ≠ l') : Apart l l' := by
  -- If one were on the way to the other, there would be something below a leaf.
  rintro (⟨m, rfl⟩ | ⟨m, rfl⟩)
  · have below : v.get? m = some w := by simpa [get?_append, hv] using hw
    exact ne (by simp [eq_nil_of_get?_leaf leaf_v below])
  · have below : w.get? m = some v := by simpa [get?_append, hw] using hv
    exact ne (by simp [eq_nil_of_get?_leaf leaf_w below])

/-- Writing one leaf leaves every other leaf as it is. -/
theorem get?_replace?_of_leaf_ne (h : t.replace? l c = some t') (hv : t.get? l = some v)
    (leaf_v : v.IsLeaf) (hw : t.get? l' = some w) (leaf_w : w.IsLeaf) (ne : l ≠ l') :
    t'.get? l' = some w := by
  rw [get?_replace?_of_apart h (apart_of_leaf hv leaf_v hw leaf_w ne), hw]

/-! ## Same shape -/

theorem SameShape.refl (t : Json) : SameShape t t :=
  fun _ => rfl

theorem SameShape.symm (h : SameShape t t') : SameShape t' t :=
  fun l => (h l).symm

theorem SameShape.trans (h : SameShape t t') (h' : SameShape t' t'') : SameShape t t'' :=
  fun l => (h l).trans (h' l)

theorem SameShape.sameOutside (h : SameShape t t') (ls : List Location) : SameOutside ls t t' :=
  fun l _ => h l

theorem SameShape.samePlaces (h : SameShape t t') : SamePlaces t t' := by
  intro l
  have outlines := congrArg (Option.map Outline.withoutKeys) (h l)
  simpa only [Option.map_map, Function.comp_def] using outlines

theorem SamePlaces.symm (h : SamePlaces t t') : SamePlaces t' t :=
  fun l => (h l).symm

theorem SameShape.outline_eq (h : SameShape t t') : t.outline = t'.outline := by
  simpa using h []

theorem SameShape.isLeaf_iff (h : SameShape t t') : t.IsLeaf ↔ t'.IsLeaf := by
  rw [IsLeaf, IsLeaf, h.outline_eq]

theorem SameShape.exists_get? (h : SameShape t t') (there : t.get? l = some v) :
    ∃ v', t'.get? l = some v' ∧ SameShape v v' := by
  have outlines := h l
  rw [there] at outlines
  rcases Option.map_eq_some_iff.1 outlines.symm with ⟨v', there', -⟩
  refine ⟨v', there', ?_⟩
  intro l'
  simpa [get?_append, there, there'] using h (l ++ l')

theorem outline_setChild (h : t.child? s = some c) : (t.setChild s v).outline = t.outline := by
  cases t with
  | obj ms =>
      cases s with
      | key k =>
          have found : Members.get? ms k = some c := by simpa [child?, member?] using h
          simp [setChild, outline, Members.keys_insert_of_get? found]
      | index i =>
          rfl
  | arr es =>
      cases s with
      | key k =>
          rfl
      | index i =>
          simp [setChild, outline]
  | _ =>
      cases s <;> rfl

/-- Trees with the same outline have the same shape if their children have, one by one. -/
theorem sameShape_setChild (h : t.child? s = some c) (below : SameShape c v) :
    SameShape t (t.setChild s v) := by
  intro l
  cases l with
  | nil =>
      simp [outline_setChild h]
  | cons s' rest =>
      by_cases hs : s = s'
      · subst hs
        simpa [get?_cons, child?_setChild_self h, h] using below rest
      · simp [get?_cons, child?_setChild_of_ne hs]

theorem SameShape.replace? (h : t.replace? l w = some t') (hv : t.get? l = some v)
    (same : SameShape v w) : SameShape t t' := by
  induction l generalizing t t' with
  | nil =>
      obtain rfl : w = t' := by simpa using h
      obtain rfl : t = v := by simpa using hv
      exact same
  | cons s rest ih =>
      -- The new child has the shape of the old one, and so has the tree around it.
      rcases replace?_cons_eq_some.1 h with ⟨c, c', child, below, rfl⟩
      have value : c.get? rest = some v := by simpa [get?_cons, child] using hv
      exact sameShape_setChild child (ih below value)

theorem IsLeaf.sameShape (hv : v.IsLeaf) (hw : w.IsLeaf) : SameShape v w := by
  intro l
  cases l with
  | nil =>
      simp [show v.outline = w.outline from hv.trans hw.symm]
  | cons s rest =>
      simp [get?_cons, hv.child?_eq_none s, hw.child?_eq_none s]

theorem sameShape_replace? (h : t.replace? l w = some t') (hv : t.get? l = some v)
    (leaf_v : v.IsLeaf) (leaf_w : w.IsLeaf) : SameShape t t' :=
  SameShape.replace? h hv (leaf_v.sameShape leaf_w)

end Json
end RefFrame
