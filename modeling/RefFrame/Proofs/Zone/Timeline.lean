import Mathlib.Order.Bounds.Basic
import RefFrame.Zone.Lookup

/-!
# From local time back to instants

The clock of a place shows a local time at an instant if the instant and the offset then in force add up
to it. No instant need do so, and several may.

Two things can happen when an offset changes. The clock is put forward and jumps over some local times,
or it is put back and shows some of them again. A local time that is shown twice is one of those that a
change in between shows again (`Timeline.exists_repeats`). When the changes of a place lie further apart
than they put its clock, the local times that are never shown are those that are jumped over
(`Timeline.skips_iff`), and one that a change shows again has been shown before it
(`Timeline.shows_of_repeats`).

All of it follows along the changes: `Held` are the instants from the beginning of a stretch on, and each
change divides them into those of the stretch and those after it (`held_cons`).
-/

namespace RefFrame
namespace Timeline

/-! ## Instants that show a local time -/

/-- The clock of the place shows the local time at the instant. -/
def Shows (z : Timeline) (u l : Int) : Prop :=
  u + z.offsetAt u = l

instance (z : Timeline) (u l : Int) : Decidable (z.Shows u l) :=
  inferInstanceAs (Decidable (_ = _))

/-- From a start on, with an offset in force from there to the first of the changes, the clock shows a
local time at an instant. -/
def Held (start : Option Int) (offset : Int) (cs : List Change) (u l : Int) : Prop :=
  notBefore start u = true ∧ u + offsetAfter offset cs u = l

variable {z : Timeline} {start : Option Int} {offset u v l : Int} {c : Change} {cs : List Change}

theorem held_nil : Held start offset [] u l ↔ notBefore start u = true ∧ u = l - offset := by
  simp only [Held, offsetAfter]
  exact and_congr_right fun _ => by omega

theorem offsetAfter_cons_of_lt (h : u < c.instant) : offsetAfter offset (c :: cs) u = offset := by
  simp [offsetAfter, Int.not_le.2 h]

theorem offsetAfter_cons_of_le (h : c.instant ≤ u) :
    offsetAfter offset (c :: cs) u = offsetAfter c.offset cs u := by
  simp [offsetAfter, h]

/-- A change ends a stretch and begins another one. -/
theorem held_cons (later : ∀ s ∈ start, s ≤ c.instant) :
    Held start offset (c :: cs) u l ↔
      (notBefore start u = true ∧ u < c.instant ∧ u = l - offset) ∨
        Held (some c.instant) c.offset cs u l := by
  have reached : c.instant ≤ u → notBefore start u = true := by
    intro h
    cases start with
    | none =>
        rfl
    | some s =>
        have first : s ≤ c.instant := later s rfl
        simp only [notBefore, decide_eq_true_eq]
        omega
  rcases Int.lt_or_le u c.instant with before | after
  · have outside : notBefore (some c.instant) u = false := by simpa [notBefore] using before
    simp only [Held, offsetAfter_cons_of_lt before, outside, Bool.false_eq_true, false_and, or_false]
    exact and_congr_right fun _ => by omega
  · have inside : notBefore (some c.instant) u = true := by simpa [notBefore] using after
    simp only [Held, offsetAfter_cons_of_le after, inside, reached after, true_and]
    omega

theorem le_of_held_some {s : Int} (h : Held (some s) offset cs u l) : s ≤ u := by
  simpa [notBefore] using h.1

theorem held_none : Held none z.initial z.changes u l ↔ z.Shows u l := by
  simp [Held, Shows, offsetAt, notBefore]

/-! ## Local times that are jumped over -/

/-- The clock jumps over the local time when it is put forward by one of the changes. -/
def SkipsAfter (offset : Int) (cs : List Change) (l : Int) : Prop :=
  ∃ c ∈ cs, c.instant + offsetAfter offset cs (c.instant - 1) ≤ l ∧ l < c.instant + c.offset

def Skips (z : Timeline) (l : Int) : Prop :=
  SkipsAfter z.initial z.changes l

/-- The changes lie further apart than either of two neighbours puts the clock. -/
def Spaced (offset : Int) : List Change → Prop
  | [] => True
  | c :: cs =>
    (∀ c' ∈ cs.head?, ((c.offset - offset).natAbs : Int) < c'.instant - c.instant ∧
      ((c'.offset - c.offset).natAbs : Int) < c'.instant - c.instant) ∧ Spaced c.offset cs

/-- The changes of the place lie far enough apart. -/
def Regular (z : Timeline) : Prop :=
  Spaced z.initial z.changes

theorem Spaced.tail (h : Spaced offset (c :: cs)) : Spaced c.offset cs :=
  h.2

theorem Spaced.pairwise (h : Spaced offset cs) : cs.Pairwise fun a b => a.instant < b.instant := by
  induction cs generalizing offset with
  | nil =>
      exact .nil
  | cons c cs ih =>
      have rest := ih h.tail
      refine .cons ?_ rest
      intro c' mem
      cases cs with
      | nil =>
          cases mem
      | cons next cs =>
          have near := h.1 next rfl
          rcases List.mem_cons.1 mem with rfl | later
          · omega
          · have further := (List.pairwise_cons.1 rest).1 c' later
            omega

/-- What the first change puts an end to is the offset from before it. -/
theorem offsetAfter_before_first : offsetAfter offset (c :: cs) (c.instant - 1) = offset :=
  offsetAfter_cons_of_lt (by omega)

theorem offsetAfter_before_later (first : ∀ c' ∈ cs, c.instant < c'.instant) {d : Change}
    (mem : d ∈ cs) :
    offsetAfter offset (c :: cs) (d.instant - 1) = offsetAfter c.offset cs (d.instant - 1) := by
  have := first d mem
  exact offsetAfter_cons_of_le (by omega)

theorem skipsAfter_cons (first : ∀ c' ∈ cs, c.instant < c'.instant) :
    SkipsAfter offset (c :: cs) l ↔
      (c.instant + offset ≤ l ∧ l < c.instant + c.offset) ∨ SkipsAfter c.offset cs l := by
  have own : offsetAfter offset (c :: cs) (c.instant - 1) = offset := offsetAfter_before_first
  constructor
  · rintro ⟨c', mem, reached, jumped⟩
    rcases List.mem_cons.1 mem with rfl | later
    · exact Or.inl ⟨own ▸ reached, jumped⟩
    · exact Or.inr ⟨c', later, offsetAfter_before_later first later ▸ reached, jumped⟩
  · rintro (⟨reached, jumped⟩ | ⟨c', later, reached, jumped⟩)
    · exact ⟨c, List.mem_cons_self, own.symm ▸ reached, jumped⟩
    · exact ⟨c', List.mem_cons_of_mem c later,
        (offsetAfter_before_later first later).symm ▸ reached, jumped⟩

/-- What is jumped over later on lies beyond the end of the first stretch. -/
theorem le_of_skipsAfter (spaced : Spaced offset (c :: cs)) (skips : SkipsAfter c.offset cs l) :
    c.instant + offset ≤ l := by
  induction cs generalizing offset c with
  | nil =>
      rcases skips with ⟨c', mem, -⟩
      cases mem
  | cons next cs ih =>
      have near := spaced.1 next rfl
      rw [skipsAfter_cons (List.pairwise_cons.1 spaced.tail.pairwise).1] at skips
      rcases skips with here | later
      · omega
      · have := ih spaced.tail later
        omega

/-- A local time that is not jumped over is shown, if the local clock has begun. -/
theorem exists_held (ordered : cs.Pairwise fun a b => a.instant < b.instant)
    (later : ∀ s ∈ start, ∀ c ∈ cs, s ≤ c.instant) (begun : ∀ s ∈ start, s + offset ≤ l)
    (kept : ¬ SkipsAfter offset cs l) : ∃ u, Held start offset cs u l := by
  have within : notBefore start (l - offset) = true := by
    cases start with
    | none =>
        rfl
    | some s =>
        have := begun s rfl
        simp only [notBefore, decide_eq_true_eq]
        omega
  induction cs generalizing start offset with
  | nil =>
      exact ⟨l - offset, held_nil.2 ⟨within, rfl⟩⟩
  | cons c cs ih =>
      rcases List.pairwise_cons.1 ordered with ⟨first, rest⟩
      rw [skipsAfter_cons first, not_or] at kept
      have begun' : ∀ s ∈ start, s ≤ c.instant := fun s begin => later s begin c List.mem_cons_self
      by_cases before : l - offset < c.instant
      · exact ⟨l - offset, (held_cons begun').2 (Or.inl ⟨within, before, rfl⟩)⟩
      · -- Past the end of the stretch, and not jumped over, the next one has begun.
        have reached : c.instant + c.offset ≤ l := by
          have := kept.1
          omega
        have after : ∀ s ∈ some c.instant, ∀ c' ∈ cs, s ≤ c'.instant := by
          simpa using fun c' mem => Int.le_of_lt (first c' mem)
        rcases ih rest after (by simpa using reached) kept.2
          (by simp only [notBefore, decide_eq_true_eq]; omega) with ⟨u, held⟩
        exact ⟨u, (held_cons begun').2 (Or.inr held)⟩

/-- Where the local clock has not begun, it does not show the time later on either. -/
theorem lt_of_held {s : Int} (spaced : Spaced offset cs)
    (begins : ∀ c ∈ cs.head?, s ≤ c.instant ∧ s + offset ≤ c.instant + c.offset)
    (held : Held (some s) offset cs u l) : s + offset ≤ l := by
  induction cs generalizing s offset with
  | nil =>
      have := le_of_held_some held
      have := (held_nil.1 held).2
      omega
  | cons c cs ih =>
      have near := begins c rfl
      rw [held_cons (by simpa using near.1)] at held
      rcases held with ⟨within, -, rfl⟩ | later
      · have : s ≤ l - offset := by simpa [notBefore] using within
        omega
      · have next : c.instant + c.offset ≤ l := by
          refine ih spaced.tail ?_ later
          intro c' mem
          have := spaced.1 c' mem
          omega
        omega

/-- A local time that is jumped over is not shown. -/
theorem not_held_of_skipsAfter (spaced : Spaced offset cs)
    (begins : ∀ s ∈ start, ∀ c ∈ cs.head?, s ≤ c.instant)
    (skips : SkipsAfter offset cs l) : ¬ Held start offset cs u l := by
  induction cs generalizing start offset with
  | nil =>
      rcases skips with ⟨c, mem, -⟩
      cases mem
  | cons c cs ih =>
      have next : ∀ c' ∈ cs.head?, c.instant ≤ c'.instant ∧
          c.instant + c.offset ≤ c'.instant + c'.offset := by
        intro c' mem
        have := spaced.1 c' mem
        omega
      rw [held_cons fun s begin => begins s begin c rfl]
      rw [skipsAfter_cons (List.pairwise_cons.1 spaced.pairwise).1] at skips
      rcases skips with ⟨reached, jumped⟩ | later
      · rintro (⟨-, before, rfl⟩ | held)
        · omega
        · have := lt_of_held spaced.tail next held
          omega
      · rintro (⟨-, before, rfl⟩ | held)
        · have := le_of_skipsAfter spaced later
          omega
        · exact ih spaced.tail (by simpa using fun c' mem => (next c' mem).1) later held

/-- The local times that a place never shows are those that its clock jumps over. -/
theorem skips_iff (regular : z.Regular) : z.Skips l ↔ ∀ u, ¬ z.Shows u l := by
  simp only [← held_none]
  constructor
  · intro skips u
    exact not_held_of_skipsAfter regular nofun skips
  · intro none_shown
    by_contra kept
    obtain ⟨u, held⟩ : ∃ u, Held none z.initial z.changes u l :=
      exists_held regular.pairwise nofun nofun kept
    exact none_shown u held

/-! ## Local times that are shown again -/

/-- The change is one that puts the clock back over the local time. -/
def RepeatsAfter (offset : Int) (cs : List Change) (l : Int) (c : Change) : Prop :=
  c ∈ cs ∧ c.instant + c.offset ≤ l ∧ l < c.instant + offsetAfter offset cs (c.instant - 1)

def Repeats (z : Timeline) (l : Int) (c : Change) : Prop :=
  RepeatsAfter z.initial z.changes l c

theorem repeatsAfter_cons_self (back : c.instant + c.offset ≤ l) (over_it : l < c.instant + offset) :
    RepeatsAfter offset (c :: cs) l c :=
  ⟨List.mem_cons_self, back, offsetAfter_before_first.symm ▸ over_it⟩

theorem RepeatsAfter.cons {d : Change} (first : ∀ c' ∈ cs, c.instant < c'.instant)
    (h : RepeatsAfter c.offset cs l d) : RepeatsAfter offset (c :: cs) l d := by
  rcases h with ⟨mem, back, over_it⟩
  exact ⟨List.mem_cons_of_mem c mem, back, (offsetAfter_before_later first mem).symm ▸ over_it⟩

/-- If the local clock is past a time, it has to be put back to show it. -/
theorem exists_repeats_of_lt {s : Int} (ordered : cs.Pairwise fun a b => a.instant < b.instant)
    (later : ∀ c ∈ cs, s ≤ c.instant) (past : l < s + offset) (held : Held (some s) offset cs u l) :
    ∃ d, RepeatsAfter offset cs l d ∧ s ≤ d.instant ∧ d.instant ≤ u := by
  induction cs generalizing s offset with
  | nil =>
      have := le_of_held_some held
      have := (held_nil.1 held).2
      omega
  | cons c cs ih =>
      rcases List.pairwise_cons.1 ordered with ⟨first, rest⟩
      have begun : s ≤ c.instant := later c List.mem_cons_self
      rw [held_cons (by simpa using begun)] at held
      rcases held with ⟨within, -, rfl⟩ | held
      · have : s ≤ l - offset := by simpa [notBefore] using within
        omega
      · by_cases back : c.instant + c.offset ≤ l
        · exact ⟨c, repeatsAfter_cons_self back (by omega), begun, le_of_held_some held⟩
        · -- The clock is still past the time when the next stretch begins.
          rcases ih rest (fun c' mem => Int.le_of_lt (first c' mem)) (by omega) held with
            ⟨d, again, after, within⟩
          exact ⟨d, again.cons first, by omega, within⟩

/-- Between two instants that show a local time the clock is put back over it. -/
theorem exists_repeatsAfter (ordered : cs.Pairwise fun a b => a.instant < b.instant)
    (later : ∀ s ∈ start, ∀ c ∈ cs, s ≤ c.instant) (first_shown : Held start offset cs v l)
    (then_shown : Held start offset cs u l) (lt : v < u) :
    ∃ d, RepeatsAfter offset cs l d ∧ v < d.instant ∧ d.instant ≤ u := by
  induction cs generalizing start offset with
  | nil =>
      have := (held_nil.1 first_shown).2
      have := (held_nil.1 then_shown).2
      omega
  | cons c cs ih =>
      rcases List.pairwise_cons.1 ordered with ⟨first, rest⟩
      have begun : ∀ s ∈ start, s ≤ c.instant := fun s begin => later s begin c List.mem_cons_self
      have next : ∀ c' ∈ cs, c.instant ≤ c'.instant := fun c' mem => Int.le_of_lt (first c' mem)
      rw [held_cons begun] at first_shown then_shown
      rcases first_shown with ⟨-, before, rfl⟩ | first_shown
      · rcases then_shown with ⟨-, -, rfl⟩ | then_shown
        · omega
        · have reached := le_of_held_some then_shown
          by_cases back : c.instant + c.offset ≤ l
          · exact ⟨c, repeatsAfter_cons_self back (by omega), before, reached⟩
          · rcases exists_repeats_of_lt rest next (by omega) then_shown with
              ⟨d, again, after, within⟩
            exact ⟨d, again.cons first, by omega, within⟩
      · have reached := le_of_held_some first_shown
        rcases then_shown with ⟨-, before, rfl⟩ | then_shown
        · omega
        · rcases ih rest (by simpa using next) first_shown then_shown with ⟨d, again, between⟩
          exact ⟨d, again.cons first, between⟩

theorem exists_repeats (ordered : z.changes.Pairwise fun a b => a.instant < b.instant)
    (first_shown : z.Shows v l) (then_shown : z.Shows u l) (lt : v < u) :
    ∃ d, z.Repeats l d ∧ v < d.instant ∧ d.instant ≤ u := by
  rw [← held_none] at first_shown then_shown
  exact exists_repeatsAfter ordered (by simp) first_shown then_shown lt

/-- What a change shows again has been shown in the stretch before it. -/
theorem held_of_repeatsAfter {d : Change} (spaced : Spaced offset cs)
    (begins : ∀ s ∈ start, ∀ c ∈ cs.head?, ((c.offset - offset).natAbs : Int) < c.instant - s)
    (again : RepeatsAfter offset cs l d) :
    Held start offset cs (l - offsetAfter offset cs (d.instant - 1)) l := by
  induction cs generalizing start offset with
  | nil =>
      rcases again with ⟨mem, -⟩
      cases mem
  | cons c cs ih =>
      have first := (List.pairwise_cons.1 spaced.pairwise).1
      have begun : ∀ s ∈ start, s ≤ c.instant := by
        intro s begin
        have := begins s begin c rfl
        omega
      rcases again with ⟨mem, back, over_it⟩
      rw [held_cons begun]
      rcases List.mem_cons.1 mem with rfl | later
      · rw [offsetAfter_before_first] at over_it ⊢
        refine Or.inl ⟨?_, by omega, rfl⟩
        cases start with
        | none =>
            rfl
        | some s =>
            have := begins s rfl d rfl
            simp only [notBefore, decide_eq_true_eq]
            omega
      · rw [offsetAfter_before_later first later] at over_it ⊢
        refine Or.inr (ih spaced.tail ?_ ⟨later, back, over_it⟩)
        intro s begin c' next
        obtain rfl : c.instant = s := Option.some.inj begin
        exact (spaced.1 c' next).2

/-- The offset before a change that shows a local time again leads to an instant before the change that
has shown it. -/
theorem shows_of_repeats {d : Change} (regular : z.Regular) (again : z.Repeats l d) :
    z.Shows (l - z.offsetBefore d) l ∧ l - z.offsetBefore d < d.instant := by
  have over_it : l < d.instant + z.offsetBefore d := again.2.2
  exact ⟨held_none.1 (held_of_repeatsAfter regular nofun again), by omega⟩

end Timeline
end RefFrame
