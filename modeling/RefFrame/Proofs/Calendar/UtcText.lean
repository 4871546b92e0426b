import Mathlib.Data.List.Basic
import Mathlib.Data.List.TakeWhile
import RefFrame.Proofs.Calendar.Days
import RefFrame.Proofs.Text.Digits

/-!
# Reading dates and times in UTC

Readers for dates such as `2020-02-29` and for points in time such as `2020-02-29T23:59:59.999Z`. They
go by the text alone, from left to right: a year in four digits or more, with a sign if it has one, then
fields of a fixed width with their marks between them. What does not exist in the calendar or on the
clock is refused.

The texts that dates and civil times write are read as these dates and civil times, in whatever year
(`Date.ofText?_text`, `CivilTime.ofUtcText?_utcMilliText`).
-/

namespace RefFrame

open Text

/-- A number that is written in digits alone. -/
def digitsOnly? (cs : List Char) : Option Nat :=
  if cs.all Char.isDigit then some (digitsValue cs) else none

theorem le_length_paddedDigits (width n : Nat) : width ≤ (paddedDigits width n).length := by
  simp only [paddedDigits, List.length_append, List.length_replicate]
  omega

theorem digitsOnly?_paddedDigits (width n : Nat) : digitsOnly? (paddedDigits width n) = some n := by
  have digits : (paddedDigits width n).all Char.isDigit = true :=
    List.all_eq_true.2 fun _ => isDigit_of_mem_paddedDigits
  rw [digitsOnly?, if_pos digits, digitsValue_paddedDigits]

namespace Date

variable {d : Date} {year : Int} {rest : List Char}

/-- The digits at the front of a text, at least four, and what follows them. -/
def spanYear? (cs : List Char) : Option (Nat × List Char) :=
  let digits := cs.takeWhile Char.isDigit
  if 4 ≤ digits.length then some (digitsValue digits, cs.dropWhile Char.isDigit) else none

/-- A year at the front of a text, and what follows it. -/
def readYear? : List Char → Option (Int × List Char)
  | '-' :: cs => (spanYear? cs).map fun (n, rest) => (-(n : Int), rest)
  | '+' :: cs => (spanYear? cs).map fun (n, rest) => ((n : Int), rest)
  | cs => (spanYear? cs).map fun (n, rest) => ((n : Int), rest)

/-- A date at the front of a text, and what follows it. -/
def readText? (cs : List Char) : Option (Date × List Char) := do
  let (year, afterYear) ← readYear? cs
  match afterYear with
  | '-' :: m₁ :: m₂ :: '-' :: d₁ :: d₂ :: rest =>
    let month ← digitsOnly? [m₁, m₂]
    let day ← digitsOnly? [d₁, d₂]
    if IsValid ⟨year, month, day⟩ then some (⟨year, month, day⟩, rest) else none
  | _ => none

/-- The date that a text is, with nothing after it. -/
def ofText? (cs : List Char) : Option Date :=
  match readText? cs with
  | some (d, []) => some d
  | _ => none

theorem spanYear?_paddedDigits (n : Nat) (h : rest.head? = some '-') :
    spanYear? (paddedDigits 4 n ++ rest) = some (n, rest) := by
  have digits : ∀ c ∈ paddedDigits 4 n, Char.isDigit c = true := fun _ => isDigit_of_mem_paddedDigits
  have four : 4 ≤ (paddedDigits 4 n).length := le_length_paddedDigits 4 n
  rcases rest with _ | ⟨mark, rest⟩
  · cases h
  · -- The digits end at the mark.
    obtain rfl : mark = '-' := Option.some.inj h
    have taken : (paddedDigits 4 n ++ '-' :: rest).takeWhile Char.isDigit = paddedDigits 4 n := by
      rw [List.takeWhile_append_of_pos digits]
      simp [Char.isDigit]
    have left : (paddedDigits 4 n ++ '-' :: rest).dropWhile Char.isDigit = '-' :: rest := by
      rw [List.dropWhile_append_of_pos digits]
      simp [Char.isDigit]
    rw [spanYear?, taken, left, digitsValue_paddedDigits, if_pos four]

theorem readYear?_of_isDigit {cs : List Char} (h : ∀ c ∈ cs.head?, Char.isDigit c = true) :
    readYear? cs = (spanYear? cs).map fun (n, rest) => ((n : Int), rest) := by
  unfold readYear?
  split
  · exact absurd (h '-' rfl) (by decide)
  · exact absurd (h '+' rfl) (by decide)
  · rfl

theorem readYear?_yearText (year : Int) (h : rest.head? = some '-') :
    readYear? (yearText year ++ rest) = some (year, rest) := by
  have span := spanYear?_paddedDigits year.natAbs h
  by_cases below : year < 0
  · have value : -(year.natAbs : Int) = year := by omega
    simp only [yearText, if_pos below, List.cons_append, readYear?, span, Option.map_some, value]
  · have value : (year.natAbs : Int) = year := by omega
    by_cases above : 9999 < year
    · simp only [yearText, if_neg below, if_pos above, List.cons_append, readYear?, span,
        Option.map_some, value]
    · -- Without a sign, the text begins with a digit.
      have first : ∀ c ∈ (paddedDigits 4 year.natAbs ++ rest).head?, Char.isDigit c = true := by
        intro c mem
        have some_digit : 0 < (paddedDigits 4 year.natAbs).length :=
          Nat.lt_of_lt_of_le (by decide) (le_length_paddedDigits 4 year.natAbs)
        obtain ⟨c', cs, digits⟩ := List.exists_cons_of_length_pos some_digit
        obtain rfl : c' = c := by simpa [digits] using mem
        exact isDigit_of_mem_paddedDigits (digits ▸ List.mem_cons_self)
      simp only [yearText, if_neg below, if_neg above, readYear?_of_isDigit first, span,
        Option.map_some, value]

/-- A date is read from the front of a text that it was written to. -/
theorem readText?_text (valid : d.IsValid) : readText? (d.text ++ rest) = some (d, rest) := by
  have month : d.month < 10 ^ 2 := by
    have le : d.month ≤ 12 := valid.2.1
    omega
  have day : d.day < 10 ^ 2 := by
    have le : d.day ≤ 31 := day_le valid
    omega
  have parts : d.text ++ rest =
      yearText d.year ++ ('-' :: paddedDigits 2 d.month ++ '-' :: paddedDigits 2 d.day ++ rest) := by
    simp [text]
  rw [parts, readText?, readYear?_yearText d.year rfl]
  -- Fields of two digits are two characters, which the reader takes one by one.
  obtain ⟨m₁, m₂, months⟩ := List.length_eq_two.1 (length_paddedDigits (by decide : 0 < 2) month)
  obtain ⟨d₁, d₂, days⟩ := List.length_eq_two.1 (length_paddedDigits (by decide : 0 < 2) day)
  have month_value := digitsOnly?_paddedDigits 2 d.month
  have day_value := digitsOnly?_paddedDigits 2 d.day
  rw [months] at month_value
  rw [days] at day_value
  simp [months, days, month_value, day_value, valid]

theorem ofText?_text (valid : d.IsValid) : ofText? d.text = some d := by
  have read : readText? (d.text ++ []) = some (d, []) := readText?_text valid
  rw [List.append_nil] at read
  simp [ofText?, read]

end Date

namespace TimeOfDay

variable {t : TimeOfDay} {rest : List Char}

/-- A time of day with its fraction cut to milliseconds. -/
def cut (t : TimeOfDay) : TimeOfDay :=
  { t with nano := t.nano / 1_000_000 * 1_000_000 }

/-- A time of day with milliseconds at the front of a text, and what follows it. -/
def readText? : List Char → Option (TimeOfDay × List Char)
  | h₁ :: h₂ :: ':' :: m₁ :: m₂ :: ':' :: s₁ :: s₂ :: '.' :: f₁ :: f₂ :: f₃ :: rest => do
    let hour ← digitsOnly? [h₁, h₂]
    let minute ← digitsOnly? [m₁, m₂]
    let second ← digitsOnly? [s₁, s₂]
    let millis ← digitsOnly? [f₁, f₂, f₃]
    let t : TimeOfDay := ⟨hour, minute, second, millis * 1_000_000⟩
    if t.IsValid then some (t, rest) else none
  | _ => none

theorem isValid_cut (valid : t.IsValid) : t.cut.IsValid := by
  rcases valid with ⟨hour, minute, second, nano⟩
  refine ⟨hour, minute, second, ?_⟩
  show t.nano / 1_000_000 * 1_000_000 < 1_000_000_000
  omega

theorem readText?_text (valid : t.IsValid) :
    readText? (t.text ++ t.milliText ++ rest) = some (t.cut, rest) := by
  have hour : t.hour < 10 ^ 2 := Nat.lt_trans valid.1 (by decide)
  have minute : t.minute < 10 ^ 2 := Nat.lt_trans valid.2.1 (by decide)
  have second : t.second < 10 ^ 2 := Nat.lt_trans valid.2.2.1 (by decide)
  have millis : t.nano / 1_000_000 < 10 ^ 3 := by
    have nano : t.nano < 1_000_000_000 := valid.2.2.2
    omega
  obtain ⟨h₁, h₂, hours⟩ := List.length_eq_two.1 (length_paddedDigits (by decide : 0 < 2) hour)
  obtain ⟨m₁, m₂, minutes⟩ := List.length_eq_two.1 (length_paddedDigits (by decide : 0 < 2) minute)
  obtain ⟨s₁, s₂, seconds⟩ := List.length_eq_two.1 (length_paddedDigits (by decide : 0 < 2) second)
  obtain ⟨f₁, f₂, f₃, fraction⟩ :=
    List.length_eq_three.1 (length_paddedDigits (by decide : 0 < 3) millis)
  have hour_value := digitsOnly?_paddedDigits 2 t.hour
  have minute_value := digitsOnly?_paddedDigits 2 t.minute
  have second_value := digitsOnly?_paddedDigits 2 t.second
  have millis_value := digitsOnly?_paddedDigits 3 (t.nano / 1_000_000)
  rw [hours] at hour_value
  rw [minutes] at minute_value
  rw [seconds] at second_value
  rw [fraction] at millis_value
  have cut_valid : IsValid ⟨t.hour, t.minute, t.second, t.nano / 1_000_000 * 1_000_000⟩ :=
    isValid_cut valid
  simp [text, milliText, hours, minutes, seconds, fraction, readText?, hour_value, minute_value,
    second_value, millis_value, cut_valid, cut]

end TimeOfDay

namespace CivilTime

variable {c : CivilTime}

/-- A civil time with its fraction of a second cut to milliseconds. -/
def cut (c : CivilTime) : CivilTime :=
  { c with time := c.time.cut }

theorem isValid_cut (valid : c.IsValid) : c.cut.IsValid :=
  ⟨valid.1, TimeOfDay.isValid_cut valid.2⟩

/-- The civil time in UTC that a text is, with nothing after it. -/
def ofUtcText? (cs : List Char) : Option CivilTime :=
  match Date.readText? cs with
  | some (date, 'T' :: clock) =>
    match TimeOfDay.readText? clock with
    | some (time, ['Z']) => some ⟨date, time⟩
    | _ => none
  | _ => none

/-- What is written with milliseconds is read as what was written, cut to milliseconds. -/
theorem ofUtcText?_utcMilliText (valid : c.IsValid) : ofUtcText? c.utcMilliText = some c.cut := by
  have parts : c.utcMilliText =
      c.date.text ++ ('T' :: (c.time.text ++ c.time.milliText ++ ['Z'])) := by
    simp [utcMilliText]
  rw [parts, ofUtcText?, Date.readText?_text valid.1]
  simp only [TimeOfDay.readText?_text valid.2]
  rfl

end CivilTime
end RefFrame
