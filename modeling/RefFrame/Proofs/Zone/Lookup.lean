import RefFrame.Proofs.Calendar.Days
import RefFrame.Proofs.Zone.Library
import RefFrame.Zone.Table

/-!
# Looking up local times along the changes

`Timeline.localTimes` answers as it is asked of a library, for every place whose changes lie far enough
apart (`Timeline.answers_localTimes`). Those of the table are such places, so the table makes a sound
library (`BuiltIn.sound_zones`).
-/

namespace RefFrame
namespace Timeline

variable {z : Timeline} {start : Option Int} {offset l : Int} {c d : Change} {cs : List Change}

/-- The scan over the stretches finds the first instant, or none as there is none. -/
theorem earliestFrom_spec (ordered : cs.Pairwise fun a b => a.instant < b.instant)
    (later : ∀ s ∈ start, ∀ c ∈ cs, s ≤ c.instant) :
    (∃ u, earliestFrom start offset cs l = some u ∧ IsLeast {v | Held start offset cs v l} u) ∨
      (earliestFrom start offset cs l = none ∧ ∀ v, ¬ Held start offset cs v l) := by
  induction cs generalizing start offset with
  | nil =>
      simp only [earliestFrom, held_nil]
      split
      · rename_i within
        exact Or.inl ⟨l - offset, rfl, ⟨within, rfl⟩, fun v held => Int.le_of_eq held.2.symm⟩
      · rename_i outside
        refine Or.inr ⟨rfl, ?_⟩
        rintro v ⟨within, rfl⟩
        exact outside within
  | cons c cs ih =>
      rcases List.pairwise_cons.1 ordered with ⟨first, rest⟩
      have begun : ∀ s ∈ start, s ≤ c.instant := fun s begin => later s begin c List.mem_cons_self
      simp only [held_cons begun, earliestFrom]
      by_cases here : notBefore start (l - offset) = true ∧ l - offset < c.instant
      · -- All other instants come after the change.
        refine Or.inl ⟨l - offset, by simp [here], Or.inl ⟨here.1, here.2, rfl⟩, ?_⟩
        rintro v (⟨-, -, rfl⟩ | afterwards)
        · exact Int.le_refl _
        · have := le_of_held_some afterwards
          omega
      · -- What is shown is shown after the change.
        have none_here (u : Int) : ¬ (notBefore start u = true ∧ u < c.instant ∧ u = l - offset) := by
          rintro ⟨within, before, rfl⟩
          exact here ⟨within, before⟩
        have rest_only : (notBefore start (l - offset) && decide (l - offset < c.instant)) = false := by
          simpa using here
        simp only [none_here, false_or, rest_only, Bool.false_eq_true, if_false]
        refine ih rest ?_
        rintro s begin c' mem
        obtain rfl : c.instant = s := Option.some.inj begin
        exact Int.le_of_lt (first c' mem)

theorem mem_repeating : c ∈ z.repeating l ↔ z.Repeats l c := by
  simp only [repeating, List.mem_filter, Bool.and_eq_true, decide_eq_true_eq]
  rfl

theorem pairwise_repeating (regular : z.Regular) :
    (z.repeating l).Pairwise fun a b => a.instant < b.instant :=
  regular.pairwise.filter _

theorem instant_le_getLast (some_change : cs ≠ []) (ordered : cs.Pairwise fun a b => a.instant < b.instant)
    (mem : d ∈ cs) : d.instant ≤ (cs.getLast some_change).instant := by
  rw [← List.dropLast_concat_getLast some_change] at mem ordered
  rcases List.mem_append.1 mem with before | last
  · exact Int.le_of_lt ((List.pairwise_append.1 ordered).2.2 d before _ List.mem_cons_self)
  · rw [List.mem_singleton.1 last]

/-- Where no change shows a local time again, the scan answers. -/
theorem answers_of_repeating_eq_nil (regular : z.Regular) (found : z.repeating l = []) :
    z.Answers l ((earliestFrom none z.initial z.changes l).elim .none .one) := by
  have unrepeated (c : Change) : ¬ z.Repeats l c := by
    rw [← mem_repeating, found]
    exact List.not_mem_nil
  have spec := @earliestFrom_spec none z.initial l z.changes regular.pairwise nofun
  simp only [held_none] at spec
  rcases spec with ⟨u, first, shown, -⟩ | ⟨first, none_shown⟩
  · -- One instant shows it, so it is not jumped over.
    have kept : ¬ z.Skips l := fun skips => (skips_iff regular).1 skips u shown
    simp only [first, Option.elim_some]
    refine ⟨by simpa using kept, by simpa using unrepeated, nofun, nofun, ?_⟩
    rintro _ ⟨⟩
    exact shown
  · simp only [first, Option.elim_none]
    exact ⟨by simpa using (skips_iff regular).2 none_shown, by simpa using unrepeated, nofun, nofun,
      nofun⟩

/-- Where changes do, the first and the last of them answer. -/
theorem answers_of_repeating_eq_cons (regular : z.Regular) (found : z.repeating l = c :: cs) :
    z.Answers l (.two (l - z.offsetBefore c)
      (l - ((c :: cs).getLast (List.cons_ne_nil c cs)).offset)) := by
  have repeats_iff (d : Change) : z.Repeats l d ↔ d ∈ c :: cs := by
    rw [← mem_repeating, found]
  have ordered : (c :: cs).Pairwise fun a b => a.instant < b.instant :=
    found ▸ pairwise_repeating regular
  have again : z.Repeats l c := (repeats_iff c).2 List.mem_cons_self
  -- What is shown again has been shown before, so it is not jumped over.
  have kept : ¬ z.Skips l := fun skips =>
    (skips_iff regular).1 skips _ (shows_of_repeats regular again).1
  refine ⟨by simpa using kept, ⟨fun _ => ⟨c, again⟩, fun _ => ⟨_, _, rfl⟩⟩, ?first, ?last, nofun⟩
  case first =>
    rintro _ _ ⟨⟩
    refine ⟨c, again, rfl, fun d later => ?_⟩
    rcases List.mem_cons.1 ((repeats_iff d).1 later) with rfl | later
    · exact Int.le_refl _
    · exact Int.le_of_lt ((List.pairwise_cons.1 ordered).1 d later)
  case last =>
    rintro _ _ ⟨⟩
    refine ⟨_, (repeats_iff _).2 (List.getLast_mem (List.cons_ne_nil c cs)), rfl, ?_⟩
    intro d earlier
    exact instant_le_getLast _ ordered ((repeats_iff d).1 earlier)

/-- The search finds no instant, two or one, as the changes have it. -/
theorem answers_localTimes (regular : z.Regular) (l : Int) : z.Answers l (z.localTimes l) := by
  unfold localTimes
  split
  · rename_i found
    exact answers_of_repeating_eq_cons regular found
  · rename_i found
    exact answers_of_repeating_eq_nil regular found

/-! ## What the calendar has -/

/-- All offsets of the place are smaller than a day. -/
def Bounded (z : Timeline) : Prop :=
  z.initial.natAbs < 86400 ∧ ∀ c ∈ z.changes, c.offset.natAbs < 86400

theorem natAbs_offsetAfter_lt (initial : offset.natAbs < 86400)
    (later : ∀ c ∈ cs, c.offset.natAbs < 86400) (u : Int) :
    (offsetAfter offset cs u).natAbs < 86400 := by
  induction cs generalizing offset with
  | nil =>
      exact initial
  | cons c cs ih =>
      rw [List.forall_mem_cons] at later
      rw [offsetAfter]
      split
      · exact ih later.1 later.2
      · exact initial

theorem Bounded.natAbs_offsetAt_lt (h : z.Bounded) (u : Int) : (z.offsetAt u).natAbs < 86400 :=
  natAbs_offsetAfter_lt h.1 h.2 u

/-- The instants that show a local time lie within a day of it. -/
theorem Answers.within {found : LocalTimes} (answers : z.Answers l found) (bounded : z.Bounded)
    {p : Int → Bool} (near : ∀ u, (u - l).natAbs ≤ 86400 → p u = true) : found.within p = found := by
  cases found with
  | none =>
      rfl
  | one u =>
      have shown : u + z.offsetAt u = l := answers.one u rfl
      have size := bounded.natAbs_offsetAt_lt u
      have reached : p u = true := near u (by omega)
      rw [LocalTimes.within, if_pos reached]
  | two u v =>
      rcases answers.first u v rfl with ⟨c, -, before, -⟩
      rcases answers.last u v rfl with ⟨d, again, behind, -⟩
      have size : (z.offsetBefore c).natAbs < 86400 := bounded.natAbs_offsetAt_lt _
      have size' := bounded.2 d again.1
      have reached : p u = true := near u (by omega)
      have reached' : p v = true := near v (by omega)
      simp [LocalTimes.within, reached, reached']

/-! ## The table -/

instance decidableSpaced (offset : Int) : (cs : List Change) → Decidable (Spaced offset cs)
  | [] => inferInstanceAs (Decidable True)
  | c :: cs =>
    have := decidableSpaced c.offset cs
    inferInstanceAs (Decidable (_ ∧ _))

instance (z : Timeline) : Decidable z.Regular :=
  decidableSpaced z.initial z.changes

instance (z : Timeline) : Decidable z.Bounded :=
  inferInstanceAs (Decidable (_ ∧ _))

theorem regular_of_mem_named : ∀ place ∈ named, place.2.Regular ∧ place.2.Bounded := by
  decide +kernel

end Timeline

/-- The places of the table, with the search for local times, make a sound library. -/
theorem BuiltIn.sound_zones : ZoneLibrary.Sound where
  regular name z mem := (Timeline.regular_of_mem_named (name, z) mem).1
  answers name z mem c valid low high := by
    rcases Timeline.regular_of_mem_named (name, z) mem with ⟨regular, bounded⟩
    have answers := Timeline.answers_localTimes regular c.seconds
    show z.Answers c.seconds ((z.localTimes c.seconds).within CivilTime.inCalendar)
    rw [answers.within bounded fun u => CivilTime.inCalendar_of_near valid low high]
    exact answers

end RefFrame
