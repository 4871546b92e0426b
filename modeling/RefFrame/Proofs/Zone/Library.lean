import RefFrame.Proofs.Zone.Timeline
import RefFrame.Zone.Basic

/-!
# What is asked of a library of zones

A library is asked for the instants at which a place has a local time. Its answer depends on what the
changes do to the clock of the place (`Timeline.Answers`): there are no instants for a local time that one
of them jumps over, two for a local time that is shown again after one of them, and else one.

Nothing of that says which instant comes first. But where the changes lie far enough apart, it is the one
that counts as the earliest in the answer (`Timeline.Answers.earliest?_eq_some_iff`), and where there is
none the clock does not show the local time at all (`Timeline.Answers.earliest?_eq_none_iff`).
-/

namespace RefFrame

namespace Timeline

/-- The answer to a local time. Where the clock is put back over it there are two instants: the first is
reckoned with the offset before such a change, the last with the offset behind one. -/
structure Answers (z : Timeline) (l : Int) (found : LocalTimes) : Prop where
  none_iff : found = .none ↔ z.Skips l
  two_iff : (∃ u v, found = .two u v) ↔ ∃ c, z.Repeats l c
  first : ∀ u v, found = .two u v → ∃ c, z.Repeats l c ∧ u = l - z.offsetBefore c ∧
    ∀ d, z.Repeats l d → c.instant ≤ d.instant
  last : ∀ u v, found = .two u v → ∃ c, z.Repeats l c ∧ v = l - c.offset ∧
    ∀ d, z.Repeats l d → d.instant ≤ c.instant
  one : ∀ u, found = .one u → z.Shows u l

namespace Answers

variable {z : Timeline} {l u : Int} {found : LocalTimes}

theorem earliest?_eq_none_iff (answers : z.Answers l found) (regular : z.Regular) :
    found.earliest? = none ↔ ∀ v, ¬ z.Shows v l := by
  rw [← skips_iff regular, ← answers.none_iff]
  cases found <;> simp [LocalTimes.earliest?]

/-- The earliest instant of an answer is one that shows the local time, and none before it does. -/
theorem isLeast_of_earliest? (answers : z.Answers l found) (regular : z.Regular)
    (h : found.earliest? = some u) : IsLeast {v | z.Shows v l} u := by
  cases found with
  | none =>
      cases h
  | one w =>
      obtain rfl : w = u := Option.some.inj h
      have shown := answers.one w rfl
      refine ⟨shown, fun v earlier => ?_⟩
      by_contra before
      -- With an earlier one the answer would have to be two instants.
      rcases exists_repeats regular.pairwise earlier shown (Int.not_le.1 before) with ⟨d, again, -⟩
      rcases answers.two_iff.2 ⟨d, again⟩ with ⟨u, v, two⟩
      cases two
  | two w last =>
      obtain rfl : w = u := Option.some.inj h
      rcases answers.first w last rfl with ⟨c, again, rfl, first⟩
      rcases shows_of_repeats regular again with ⟨shown, before_change⟩
      refine ⟨shown, fun v earlier => ?_⟩
      by_contra before
      -- With an earlier one there would be a change of this kind before the first of them.
      rcases exists_repeats regular.pairwise earlier shown (Int.not_le.1 before) with
        ⟨d, again', -, reached⟩
      have := first d again'
      omega

theorem earliest?_eq_some_iff (answers : z.Answers l found) (regular : z.Regular) :
    found.earliest? = some u ↔ IsLeast {v | z.Shows v l} u := by
  refine ⟨answers.isLeast_of_earliest? regular, fun least => ?_⟩
  cases first : found.earliest? with
  | none =>
      exact absurd least.1 ((answers.earliest?_eq_none_iff regular).1 first u)
  | some w =>
      rw [(answers.isLeast_of_earliest? regular first).unique least]

end Answers
end Timeline

/-- The library has places whose changes lie far enough apart, and knows the local times of all years of
four digits. -/
structure ZoneLibrary.Sound [ZoneLibrary] : Prop where
  regular : ∀ name z, (name, z) ∈ ZoneLibrary.places → z.Regular
  answers : ∀ name z, (name, z) ∈ ZoneLibrary.places → ∀ c : CivilTime, c.IsValid →
    0 ≤ c.date.year → c.date.year ≤ 9999 →
      z.Answers c.seconds (ZoneLibrary.localTimes z c.seconds)

end RefFrame
