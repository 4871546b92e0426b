import Mathlib.Logic.Function.Iterate
import RefFrame.Proofs.Calendar.Days

/-!
# The next second

A calendar with a clock goes on by one second: the second is counted up, and what is full is carried into
the minute, the hour, the day, the month and the year. `CivilTime.next` says so without counting days, by
the lengths of the months alone. It is one step along the line of seconds (`CivilTime.seconds_next`), so
going on by a number of seconds comes to the civil time that the count of seconds names
(`CivilTime.next_iterate`), and `CivilTime.LaterBy` agrees with the difference of the counts
(`CivilTime.laterBy_iff`).
-/

namespace RefFrame

namespace Date

variable {d : Date} {year : Int} {month : Nat}

/-- The day after. -/
def next (d : Date) : Date :=
  if d.day < daysInMonth d.year d.month then ⟨d.year, d.month, d.day + 1⟩
  else if d.month < 12 then ⟨d.year, d.month + 1, 1⟩
  else ⟨d.year + 1, 1, 1⟩

theorem daysInMonth_pos (low : 1 ≤ month) (high : month ≤ 12) : 1 ≤ daysInMonth year month := by
  -- Of the year only matters whether it is a leap year, so there are twenty-four months to look at.
  have all : ∀ leap, ∀ i < 12, 1 ≤ (monthLengths leap).getD i 0 := by
    decide
  exact all _ (month - 1) (by omega)

theorem daysBeforeMonth_succ (low : 1 ≤ month) (high : month < 12) :
    daysBeforeMonth year (month + 1) = daysBeforeMonth year month + daysInMonth year month := by
  have all : ∀ leap, ∀ i < 11, ((monthLengths leap).take (i + 1)).sum =
      ((monthLengths leap).take i).sum + (monthLengths leap).getD i 0 := by
    decide
  have same : month + 1 - 1 = month - 1 + 1 := by omega
  rw [daysBeforeMonth_eq_sum, daysBeforeMonth_eq_sum, daysInMonth, same]
  exact all _ (month - 1) (by omega)

/-- December ends the year. -/
theorem daysBeforeMonth_december (year : Int) :
    ((daysBeforeMonth year 12 + daysInMonth year 12 : Nat) : Int) = daysOfYear year := by
  rw [← sum_monthLengths, daysBeforeMonth_eq_sum, daysInMonth]
  cases isLeapYear year <;> rfl

theorem isValid_next (h : d.IsValid) : d.next.IsValid := by
  rcases d with ⟨year, month, day⟩
  rcases h with ⟨month_pos, month_le, day_pos, day_le⟩
  simp only [next]
  split
  · rename_i within
    exact ⟨month_pos, month_le, Nat.le_add_left 1 day, within⟩
  · split
    · rename_i before
      exact ⟨Nat.le_add_left 1 month, before, Nat.le_refl 1,
        daysInMonth_pos (Nat.le_add_left 1 month) before⟩
    · exact ⟨Nat.le_refl 1, Nat.le_add_left 1 11, Nat.le_refl 1,
        daysInMonth_pos (Nat.le_refl 1) (Nat.le_add_left 1 11)⟩

theorem dayNumber_next (h : d.IsValid) : d.next.dayNumber = d.dayNumber + 1 := by
  rcases d with ⟨year, month, day⟩
  have month_pos : 1 ≤ month := h.1
  have month_le : month ≤ 12 := h.2.1
  have day_pos : 1 ≤ day := h.2.2.1
  have day_le : day ≤ daysInMonth year month := h.2.2.2
  simp only [next]
  split
  · simp only [dayNumber]
    omega
  · -- The month is full.
    rename_i full
    have last : day = daysInMonth year month := by omega
    split
    · rename_i before
      have months : daysBeforeMonth year (month + 1) =
          daysBeforeMonth year month + daysInMonth year month :=
        daysBeforeMonth_succ month_pos before
      simp only [dayNumber, months]
      omega
    · -- And so is the year.
      have december : month = 12 := by omega
      have years := daysBeforeYear_succ year
      have whole := daysBeforeMonth_december year
      have january : daysBeforeMonth (year + 1) 1 = 0 := rfl
      subst december
      simp only [dayNumber, january]
      omega

end Date

namespace CivilTime

variable {c a b : CivilTime} {n : Int}

/-- One second later. -/
def next (c : CivilTime) : CivilTime :=
  let t := c.time
  if t.second + 1 < 60 then ⟨c.date, ⟨t.hour, t.minute, t.second + 1, t.nano⟩⟩
  else if t.minute + 1 < 60 then ⟨c.date, ⟨t.hour, t.minute + 1, 0, t.nano⟩⟩
  else if t.hour + 1 < 24 then ⟨c.date, ⟨t.hour + 1, 0, 0, t.nano⟩⟩
  else ⟨c.date.next, ⟨0, 0, 0, t.nano⟩⟩

theorem nano_next (c : CivilTime) : c.next.time.nano = c.time.nano := by
  simp only [next]
  split
  · rfl
  · split
    · rfl
    · split <;> rfl

theorem isValid_next (h : c.IsValid) : c.next.IsValid := by
  rcases h with ⟨date, hour, minute, second, nano⟩
  simp only [next]
  split
  · rename_i within
    exact ⟨date, hour, minute, within, nano⟩
  · split
    · rename_i within
      exact ⟨date, hour, within, Nat.zero_lt_succ 59, nano⟩
    · split
      · rename_i within
        exact ⟨date, within, Nat.zero_lt_succ 59, Nat.zero_lt_succ 59, nano⟩
      · exact ⟨Date.isValid_next date, Nat.zero_lt_succ 23, Nat.zero_lt_succ 59,
          Nat.zero_lt_succ 59, nano⟩

theorem seconds_next (h : c.IsValid) : c.next.seconds = c.seconds + 1 := by
  have day := Date.dayNumber_next h.1
  rcases h with ⟨-, hour, minute, second, -⟩
  -- The cases are the places at which a carry may end. What is set to zero was full, so it gives back
  -- what the next place takes.
  simp only [next]
  split
  · simp only [seconds, TimeOfDay.secondOfDay]
    omega
  · split
    · simp only [seconds, TimeOfDay.secondOfDay]
      omega
    · split
      · simp only [seconds, TimeOfDay.secondOfDay]
        omega
      · simp only [seconds, TimeOfDay.secondOfDay, day]
        omega

/-- Going on second by second is counting them. -/
theorem next_iterate (h : c.IsValid) (n : Nat) :
    next^[n] c = ofSeconds (c.seconds + n) c.time.nano := by
  induction n with
  | zero =>
      simp [ofSeconds_seconds h]
  | succ n ih =>
      have valid : (ofSeconds (c.seconds + n) c.time.nano).IsValid :=
        isValid_ofSeconds _ h.2.2.2.2
      have nano : (ofSeconds (c.seconds + n) c.time.nano).next.time.nano = c.time.nano :=
        nano_next _
      have back := ofSeconds_seconds (isValid_next valid)
      rw [seconds_next valid, seconds_ofSeconds, nano] at back
      calc
        next^[n + 1] c = (ofSeconds (c.seconds + n) c.time.nano).next := by
          rw [Function.iterate_succ_apply', ih]
        _ = ofSeconds (c.seconds + n + 1) c.time.nano := back.symm
        _ = ofSeconds (c.seconds + (n + 1 : Nat)) c.time.nano := by
          rw [Int.natCast_add, Int.add_assoc]
          rfl

/-- The one civil time comes so many seconds after the other, or so many before if the number is
negative. -/
def LaterBy (n : Int) (a b : CivilTime) : Prop :=
  next^[n.toNat] a = next^[(-n).toNat] b

theorem laterBy_iff (valid : a.IsValid) (valid' : b.IsValid) :
    LaterBy n a b ↔ a.seconds + n = b.seconds ∧ a.time.nano = b.time.nano := by
  have meeting : LaterBy n a b ↔ ofSeconds (a.seconds + n.toNat) a.time.nano =
      ofSeconds (b.seconds + (-n).toNat) b.time.nano := by
    rw [LaterBy, next_iterate valid, next_iterate valid']
  rw [meeting]
  constructor
  · -- Both have come to the same civil time, which has one count of seconds.
    intro same
    have count := congrArg seconds same
    rw [seconds_ofSeconds, seconds_ofSeconds] at count
    have nano : a.time.nano = b.time.nano := congrArg (fun c => c.time.nano) same
    exact ⟨by omega, nano⟩
  · rintro ⟨seconds, nano⟩
    have count : a.seconds + (n.toNat : Int) = b.seconds + ((-n).toNat : Int) := by omega
    rw [count, nano]

end CivilTime
end RefFrame
