import Mathlib.Algebra.GroupWithZero.Nat
import RefFrame.Calendar.CivilTime

/-!
# Dates and day numbers

`Date.dayNumber` and `Date.ofDayNumber` are inverse to each other, between the dates that exist and
all whole numbers; `CivilTime.seconds` and `CivilTime.ofSeconds` likewise between civil times and
seconds.

A day number is taken apart in two steps, the year first and then month and day. Each step is a
division with remainder: of all days into years, and of a year's days into months.
-/

namespace RefFrame
namespace Date

variable {d : Date} {m m' n k day i : Nat} {lengths : List Nat} {year year' : Int}

/-! ## Years -/

/-- The length of a year. -/
def daysOfYear (year : Int) : Int :=
  if isLeapYear year then 366 else 365

theorem isLeapYear_iff :
    isLeapYear year = true ↔ year % 4 = 0 ∧ (year % 100 ≠ 0 ∨ year % 400 = 0) := by
  simp [isLeapYear]

theorem daysBeforeYear_succ (year : Int) :
    daysBeforeYear (year + 1) = daysBeforeYear year + daysOfYear year := by
  by_cases leap : isLeapYear year = true
  · have divides := isLeapYear_iff.1 leap
    simp only [daysBeforeYear, daysOfYear, leap, if_true]
    omega
  · have divides := mt isLeapYear_iff.2 leap
    simp only [daysBeforeYear, daysOfYear, if_neg leap]
    omega

theorem daysBeforeYear_mono (h : year ≤ year') : daysBeforeYear year ≤ daysBeforeYear year' := by
  simp only [daysBeforeYear]
  omega

/-- A day lies in the year that is found for it. -/
theorem yearOf_spec (n : Int) :
    daysBeforeYear (yearOf n) ≤ n ∧ n < daysBeforeYear (yearOf n + 1) := by
  -- The guess by mean years is off by at most one, and the three cases set it right.
  simp only [yearOf]
  split
  · rename_i h
    refine ⟨h, ?_⟩
    simp only [daysBeforeYear] at h ⊢
    omega
  · rename_i notNext
    split
    · rename_i h
      refine ⟨h, ?_⟩
      omega
    · rename_i h
      constructor
      · simp only [daysBeforeYear] at h ⊢
        omega
      · simpa using h

theorem yearOf_eq {n : Int} (first : daysBeforeYear year ≤ n)
    (last : n < daysBeforeYear (year + 1)) : yearOf n = year := by
  have found := yearOf_spec n
  rcases Int.lt_trichotomy (yearOf n) year with before | same | after
  · have apart : daysBeforeYear (yearOf n + 1) ≤ daysBeforeYear year := daysBeforeYear_mono before
    omega
  · exact same
  · have apart : daysBeforeYear (year + 1) ≤ daysBeforeYear (yearOf n) := daysBeforeYear_mono after
    omega

/-! ## Months -/

theorem sum_monthLengths (year : Int) :
    ((monthLengths (isLeapYear year)).sum : Int) = daysOfYear year := by
  cases leap : isLeapYear year <;> simp [monthLengths, daysOfYear, leap]

/-- The day of a month with its days before it, counted from month `m` on. -/
theorem monthAndDay_spec (h : n < lengths.sum) :
    ∃ i day, monthAndDay m lengths n = (m + i, day) ∧ i < lengths.length ∧ 1 ≤ day ∧
      day ≤ lengths.getD i 0 ∧ (lengths.take i).sum + day = n + 1 := by
  induction lengths generalizing m n with
  | nil =>
      simp at h
  | cons length rest ih =>
      by_cases here : n < length
      · -- The day lies in the first of the months.
        exact ⟨0, n + 1, by simp [monthAndDay, here], by simp, by omega, here, by simp⟩
      · have later : n - length < rest.sum := by
          rw [List.sum_cons] at h
          omega
        rcases ih (m := m + 1) later with ⟨i, day, found, inside, positive, bound, total⟩
        refine ⟨i + 1, day, ?_, by simpa using inside, positive, by simpa using bound, ?_⟩
        · rw [monthAndDay, if_neg here, found]
          congr 1
          omega
        · rw [List.take_succ_cons, List.sum_cons]
          omega

/-- The day that follows the days of `i` months belongs to month `i`. -/
theorem monthAndDay_of_lt (inside : k < lengths.getD i 0) :
    monthAndDay m lengths ((lengths.take i).sum + k) = (m + i, k + 1) := by
  induction lengths generalizing m i with
  | nil =>
      simp at inside
  | cons length rest ih =>
      cases i with
      | zero =>
          have here : k < length := by simpa using inside
          simp [monthAndDay, here]
      | succ i =>
          have beyond : ¬ length + (rest.take i).sum + k < length := by omega
          have left : length + (rest.take i).sum + k - length = (rest.take i).sum + k := by omega
          rw [List.take_succ_cons, List.sum_cons, monthAndDay, if_neg beyond, left,
            ih (by simpa using inside)]
          congr 1
          omega

theorem sum_take_add_getD_le (lengths : List Nat) (i : Nat) :
    (lengths.take i).sum + lengths.getD i 0 ≤ lengths.sum := by
  induction lengths generalizing i with
  | nil =>
      simp
  | cons length rest ih =>
      cases i with
      | zero =>
          simp
      | succ i =>
          have below := ih i
          simp only [List.take_succ_cons, List.sum_cons, List.getD_cons_succ]
          omega

/-! ## Dates -/

theorem ofDayNumber_eq {k : Nat} (inside : (k : Int) < daysOfYear year) :
    ofDayNumber (daysBeforeYear year + k - epoch) =
      ⟨year, (monthAndDay 1 (monthLengths (isLeapYear year)) k).1,
        (monthAndDay 1 (monthLengths (isLeapYear year)) k).2⟩ := by
  -- A number below the length of the year stays within the year.
  have next := daysBeforeYear_succ year
  have found : yearOf (daysBeforeYear year + k) = year := by
    apply yearOf_eq
    · omega
    · omega
  have start : daysBeforeYear year + k - epoch + epoch = daysBeforeYear year + k := by omega
  have offset : (daysBeforeYear year + k - daysBeforeYear year).toNat = k := by omega
  simp only [ofDayNumber, start, found, offset]

theorem exists_dayOfYear (n : Int) :
    ∃ (year : Int) (k : Nat), n = daysBeforeYear year + k - epoch ∧ (k : Int) < daysOfYear year := by
  have spec := yearOf_spec (n + epoch)
  rw [daysBeforeYear_succ] at spec
  refine ⟨yearOf (n + epoch), (n + epoch - daysBeforeYear (yearOf (n + epoch))).toNat, ?_, ?_⟩
  · omega
  · omega

theorem day_le (h : d.IsValid) : d.day ≤ 31 := by
  have inMonth : d.day ≤ (monthLengths (isLeapYear d.year)).getD (d.month - 1) 0 := h.2.2.2
  have longest : ∀ (leap : Bool) (i : Nat), (monthLengths leap).getD i 0 ≤ 31 := by
    intro leap i
    -- There are twelve months to look at.
    rcases Nat.lt_or_ge i 12 with inside | outside
    · revert leap i
      decide
    · have none_there : (monthLengths leap).getD i 0 = 0 := by
        simp [List.getD, List.getElem?_eq_none (show (monthLengths leap).length ≤ i from outside)]
      omega
  exact Nat.le_trans inMonth (longest _ _)

theorem daysBeforeMonth_eq_sum (year : Int) (month : Nat) :
    daysBeforeMonth year month = ((monthLengths (isLeapYear year)).take (month - 1)).sum :=
  List.sum_eq_foldr.symm

theorem dayOfYear_lt (h : d.IsValid) :
    ((daysBeforeMonth d.year d.month + (d.day - 1) : Nat) : Int) < daysOfYear d.year := by
  have day_pos : 1 ≤ d.day := h.2.2.1
  have day_le : d.day ≤ (monthLengths (isLeapYear d.year)).getD (d.month - 1) 0 := h.2.2.2
  have whole : daysBeforeMonth d.year d.month +
      (monthLengths (isLeapYear d.year)).getD (d.month - 1) 0 ≤
        (monthLengths (isLeapYear d.year)).sum :=
    sum_take_add_getD_le _ _
  have total := sum_monthLengths d.year
  omega

theorem dayNumber_bounds (h : d.IsValid) :
    daysBeforeYear d.year - epoch ≤ d.dayNumber ∧
      d.dayNumber < daysBeforeYear (d.year + 1) - epoch := by
  have day_pos : 1 ≤ d.day := h.2.2.1
  have inYear := dayOfYear_lt h
  rw [daysBeforeYear_succ]
  simp only [dayNumber]
  omega

/-- A date that exists is found back from its day number. -/
theorem ofDayNumber_dayNumber (h : d.IsValid) : ofDayNumber d.dayNumber = d := by
  have inYear := dayOfYear_lt h
  rcases d with ⟨year, month, day⟩
  have month_pos : 1 ≤ month := h.1
  have day_pos : 1 ≤ day := h.2.2.1
  have day_le : day ≤ (monthLengths (isLeapYear year)).getD (month - 1) 0 := h.2.2.2
  have found : monthAndDay 1 (monthLengths (isLeapYear year))
      (daysBeforeMonth year month + (day - 1)) = (1 + (month - 1), day - 1 + 1) :=
    monthAndDay_of_lt (by omega)
  have number : dayNumber ⟨year, month, day⟩ =
      daysBeforeYear year + (daysBeforeMonth year month + (day - 1) : Nat) - epoch := by
    simp only [dayNumber]
    omega
  calc
    ofDayNumber (dayNumber ⟨year, month, day⟩) =
        ofDayNumber (daysBeforeYear year + (daysBeforeMonth year month + (day - 1) : Nat) - epoch) := by
      rw [number]
    _ = ⟨year, 1 + (month - 1), day - 1 + 1⟩ := by
      rw [ofDayNumber_eq inYear, found]
    _ = ⟨year, month, day⟩ := by
      rw [Nat.add_sub_cancel' month_pos, Nat.sub_add_cancel day_pos]

/-- Every day has a date, and is found back from it. -/
theorem ofDayNumber_spec (n : Int) :
    (ofDayNumber n).IsValid ∧ (ofDayNumber n).dayNumber = n := by
  rcases exists_dayOfYear n with ⟨year, k, rfl, inside⟩
  have total := sum_monthLengths year
  have twelve : (monthLengths (isLeapYear year)).length = 12 := rfl
  have inMonths : k < (monthLengths (isLeapYear year)).sum := by omega
  rcases monthAndDay_spec (m := 1) inMonths with ⟨i, day, found, index, positive, bound, days⟩
  have month : 1 + i - 1 = i := by omega
  rw [ofDayNumber_eq inside, found]
  refine ⟨⟨?_, ?_, positive, ?_⟩, ?_⟩
  · exact Nat.le_add_right 1 i
  · show 1 + i ≤ 12
    omega
  · simpa only [daysInMonth, month] using bound
  · simp only [dayNumber, daysBeforeMonth_eq_sum, month]
    omega

end Date

namespace TimeOfDay

variable {t : TimeOfDay} {s nano : Nat}

theorem ofSecondOfDay_secondOfDay (h : t.IsValid) :
    ofSecondOfDay t.secondOfDay t.nano = t := by
  rcases t with ⟨hour, minute, second, nano⟩
  have minute_lt : minute < 60 := h.2.1
  have second_lt : second < 60 := h.2.2.1
  simp only [ofSecondOfDay, secondOfDay, TimeOfDay.mk.injEq]
  refine ⟨?_, ?_, ?_, trivial⟩
  · omega
  · omega
  · omega

theorem isValid_ofSecondOfDay (inside : s < 86400) (fraction : nano < 1_000_000_000) :
    (ofSecondOfDay s nano).IsValid := by
  refine ⟨?_, ?_, ?_, fraction⟩
  · show s / 3600 < 24
    omega
  · exact Nat.mod_lt _ (by decide)
  · exact Nat.mod_lt _ (by decide)

theorem secondOfDay_lt (h : t.IsValid) : t.secondOfDay < 86400 := by
  rcases h with ⟨hour_lt, minute_lt, second_lt, -⟩
  simp only [secondOfDay]
  omega

end TimeOfDay

namespace CivilTime

variable {c : CivilTime} {s : Int} {nano : Nat}

theorem ofSeconds_seconds (h : c.IsValid) : ofSeconds c.seconds c.time.nano = c := by
  rcases c with ⟨date, time⟩
  have inside : time.secondOfDay < 86400 := TimeOfDay.secondOfDay_lt h.2
  have day : (date.dayNumber * 86400 + time.secondOfDay) / 86400 = date.dayNumber := by omega
  have second : ((date.dayNumber * 86400 + time.secondOfDay) % 86400).toNat =
      time.secondOfDay := by omega
  simp only [ofSeconds, seconds, day, second, Date.ofDayNumber_dayNumber h.1,
    TimeOfDay.ofSecondOfDay_secondOfDay h.2]

theorem isValid_ofSeconds (s : Int) (fraction : nano < 1_000_000_000) : (ofSeconds s nano).IsValid := by
  refine ⟨(Date.ofDayNumber_spec (s / 86400)).1, TimeOfDay.isValid_ofSecondOfDay ?_ fraction⟩
  omega

theorem seconds_ofSeconds (s : Int) (nano : Nat) : (ofSeconds s nano).seconds = s := by
  have day : (ofSeconds s nano).date.dayNumber = s / 86400 := (Date.ofDayNumber_spec _).2
  have second : ((ofSeconds s nano).time.secondOfDay : Int) = s % 86400 := by
    simp only [ofSeconds, TimeOfDay.ofSecondOfDay, TimeOfDay.secondOfDay]
    omega
  rw [seconds, day, second]
  omega

/-- The calendar has all years in four digits, and a day more at either end. -/
theorem inCalendar_of_near (h : c.IsValid) (low : 0 ≤ c.date.year) (high : c.date.year ≤ 9999)
    (near : (s - c.seconds).natAbs ≤ 86400) : inCalendar s = true := by
  have begin : first.seconds ≤ -62167305600 := by decide
  have finish : 253402387200 ≤ last.seconds := by decide
  have time : c.time.secondOfDay < 86400 := TimeOfDay.secondOfDay_lt h.2
  have days := Date.dayNumber_bounds h.1
  have earliest : Date.daysBeforeYear 0 ≤ Date.daysBeforeYear c.date.year :=
    Date.daysBeforeYear_mono low
  have latest : Date.daysBeforeYear (c.date.year + 1) ≤ Date.daysBeforeYear 10000 :=
    Date.daysBeforeYear_mono (by omega)
  have zero : Date.daysBeforeYear 0 = 0 := by decide
  have tenThousand : Date.daysBeforeYear 10000 = 3652425 := by decide
  simp only [Date.epoch] at days
  have from_first : first.seconds ≤ s := by
    simp only [seconds] at begin near ⊢
    omega
  have to_last : s ≤ last.seconds := by
    simp only [seconds] at finish near ⊢
    omega
  simp [inCalendar, from_first, to_last]

theorem inCalendar_seconds (h : c.IsValid) (low : 0 ≤ c.date.year) (high : c.date.year ≤ 9999) :
    inCalendar c.seconds = true :=
  inCalendar_of_near h low high (by simp)

end CivilTime
end RefFrame
