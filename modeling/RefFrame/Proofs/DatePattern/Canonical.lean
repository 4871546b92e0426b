import Mathlib.Algebra.Group.Nat.Defs
import RefFrame.Proofs.Calendar.Days
import RefFrame.Proofs.DatePattern.Bounds
import RefFrame.Reference.TimeFrame

/-!
# Canonical texts under the canonical patterns

Canonical texts are written by one piece of code and read by another. The two agree as long as the
year has four digits: a text is read as the date or the point in time that it was written from. A
year out of that range is written with a sign, and no canonical pattern reads a sign.
-/

namespace RefFrame

open Text

/-! ## Reading token by token -/

namespace DatePattern

variable {text rest : List Char} {ts : List DateToken} {field : DateField} {width n : Nat} {a : Char}

theorem scanRest_literal :
    scanRest text (.literal [a] :: ts) (a :: rest) = (scanRest text ts rest).map (.nothing :: ·) := by
  cases later : scanRest text ts rest <;>
    simp [scanRest, readToken, later, Except.map]

theorem scanRest_number (positive : 0 < width) (h : n < 10 ^ width) :
    scanRest text (.number field width width :: ts) (paddedDigits width n ++ rest) =
      (scanRest text ts rest).map (.number field n :: ·) := by
  cases later : scanRest text ts rest <;>
    simp [scanRest, readToken, readDigits_paddedDigits positive h, later, Except.map]

theorem scanRest_fraction (positive : 0 < width) (h : n < 10 ^ width) :
    scanRest text (.fraction width :: ts) (paddedDigits width n ++ rest) =
      (scanRest text ts rest).map (.nano (n * 10 ^ (9 - width)) :: ·) := by
  cases later : scanRest text ts rest <;>
    simp [scanRest, readToken, readDigits_paddedDigits positive h, later, Except.map]

theorem scanRest_utc :
    scanRest text (.offset :: ts) ('Z' :: rest) = (scanRest text ts rest).map (.offset 0 :: ·) := by
  cases later : scanRest text ts rest <;>
    simp [scanRest, readToken, readOffset, later, Except.map]

/-! ## The canonical patterns -/

/-- The tokens of a canonical date. -/
def dateTokens : List DateToken :=
  [.number .year 4 4, .literal ['-'], .number .month 2 2, .literal ['-'], .number .day 2 2]

/-- The tokens behind the date of a canonical point in time. -/
def timeTokens : List DateToken :=
  [.literal ['T'], .number .hour 2 2, .literal [':'], .number .minute 2 2, .literal [':'],
    .number .second 2 2, .literal ['.'], .fraction 3, .offset]

theorem compile_canonical (kind : TimeKind) :
    compile (TimeFrame.canonical kind).format =
      .ok ⟨match kind with
        | .date => dateTokens
        | .dateTime => dateTokens ++ timeTokens⟩ := by
  cases kind <;> decide +kernel

theorem scanRest_date {d : Date} (valid : d.IsValid) (low : 0 ≤ d.year) (high : d.year ≤ 9999) :
    scanRest text (dateTokens ++ ts) (d.text ++ rest) =
      (scanRest text ts rest).map ([.number .year d.year.natAbs, .nothing, .number .month d.month,
        .nothing, .number .day d.day] ++ ·) := by
  have year : d.year.natAbs < 10 ^ 4 := by omega
  have month : d.month < 10 ^ 2 := by
    have le : d.month ≤ 12 := valid.2.1
    omega
  have day : d.day < 10 ^ 2 := by
    have le : d.day ≤ 31 := Date.day_le valid
    omega
  have yearText : Date.yearText d.year = paddedDigits 4 d.year.natAbs := by
    simp [Date.yearText, Int.not_lt.2 low, Int.not_lt.2 high]
  simp only [dateTokens, Date.text, yearText, List.cons_append, List.nil_append, List.append_assoc,
    scanRest_number (by decide : 0 < 4) year, scanRest_literal,
    scanRest_number (by decide : 0 < 2) month, scanRest_number (by decide : 0 < 2) day]
  cases scanRest text ts rest <;> rfl

/-! ## Reading canonical texts -/

theorem checkRange_eq_ok (low : field.bounds.1 ≤ n) (high : n ≤ field.bounds.2) :
    Captured.checkRange field n = .ok () :=
  if_pos ⟨low, high⟩

theorem checkRange_date {d : Date} (valid : d.IsValid) :
    Captured.checkRange .month d.month = .ok () ∧ Captured.checkRange .day d.day = .ok () :=
  ⟨checkRange_eq_ok valid.1 valid.2.1, checkRange_eq_ok valid.2.2.1 (Date.day_le valid)⟩

/-- A canonical date is read as the date that it was written from. -/
theorem read_date {d : Date} (valid : d.IsValid) (low : 0 ≤ d.year) (high : d.year ≤ 9999) :
    read ⟨dateTokens⟩ (String.ofList d.text) = .ok ⟨d, none, none⟩ := by
  have shape : scanRest d.text (dateTokens ++ []) (d.text ++ []) = _ :=
    scanRest_date valid low high
  rw [List.append_nil, List.append_nil] at shape
  have scanned : scan ⟨dateTokens⟩ (String.ofList d.text) =
      .ok { year := some d.year.natAbs, month := some d.month, day := some d.day } := by
    simp [scan, shape, scanRest, Except.map, Captured.ofData, Captured.put]
  have ranges := checkRange_date valid
  have year : (d.year.natAbs : Int) = d.year := Int.natAbs_of_nonneg low
  simp [read, scanned, Captured.checkRanges, Captured.ranged, ranges, Captured.written,
    Captured.date, year, valid, Captured.hourOfDay, Captured.time, bind, Except.bind, pure,
    Except.pure]

theorem scanRest_time {t : TimeOfDay} (valid : t.IsValid) :
    scanRest text timeTokens ('T' :: t.text ++ t.milliText ++ ['Z']) =
      .ok [.nothing, .number .hour t.hour, .nothing, .number .minute t.minute, .nothing,
        .number .second t.second, .nothing, .nano (t.nano / 1_000_000 * 1_000_000), .offset 0] := by
  have hour : t.hour < 10 ^ 2 := Nat.lt_trans valid.1 (by decide)
  have minute : t.minute < 10 ^ 2 := Nat.lt_trans valid.2.1 (by decide)
  have second : t.second < 10 ^ 2 := Nat.lt_trans valid.2.2.1 (by decide)
  have millis : t.nano / 1_000_000 < 10 ^ 3 := by
    have nano : t.nano < 1_000_000_000 := valid.2.2.2
    omega
  simp only [timeTokens, TimeOfDay.text, TimeOfDay.milliText, List.cons_append,
    List.append_assoc, scanRest_literal, scanRest_number (by decide : 0 < 2) hour,
    scanRest_number (by decide : 0 < 2) minute, scanRest_number (by decide : 0 < 2) second,
    scanRest_fraction (by decide : 0 < 3) millis, scanRest_utc]
  rfl

/-- A canonical point in time is read as the one that it was written from, cut to milliseconds. -/
theorem read_dateTime {c : CivilTime} (valid : c.IsValid) (low : 0 ≤ c.date.year)
    (high : c.date.year ≤ 9999) :
    read ⟨dateTokens ++ timeTokens⟩ (String.ofList c.utcMilliText) =
      .ok ⟨c.date, some { c.time with nano := c.time.nano / 1_000_000 * 1_000_000 }, some 0⟩ := by
  have parts : c.utcMilliText =
      c.date.text ++ ('T' :: c.time.text ++ c.time.milliText ++ ['Z']) := by
    simp [CivilTime.utcMilliText]
  have scanned : scan ⟨dateTokens ++ timeTokens⟩ (String.ofList c.utcMilliText) =
      .ok { year := some c.date.year.natAbs, month := some c.date.month, day := some c.date.day
            hour := some c.time.hour, minute := some c.time.minute, second := some c.time.second
            nano := some (c.time.nano / 1_000_000 * 1_000_000), offset := some 0 } := by
    rw [scan, String.toList_ofList]
    -- The whole text goes into faults only, so it may be forgotten.
    generalize c.utcMilliText = whole at parts
    subst parts
    rw [scanRest_date valid.1 low high, scanRest_time valid.2]
    rfl
  have ranges := checkRange_date valid.1
  have hour : Captured.checkRange .hour c.time.hour = .ok () :=
    checkRange_eq_ok (Nat.zero_le _) (Nat.le_of_lt_succ valid.2.1)
  have minute : Captured.checkRange .minute c.time.minute = .ok () :=
    checkRange_eq_ok (Nat.zero_le _) (Nat.le_of_lt_succ valid.2.2.1)
  have second : Captured.checkRange .second c.time.second = .ok () :=
    checkRange_eq_ok (Nat.zero_le _) (Nat.le_of_lt_succ valid.2.2.2.1)
  have year : (c.date.year.natAbs : Int) = c.date.year := Int.natAbs_of_nonneg low
  simp [read, scanned, Captured.checkRanges, Captured.ranged, ranges, hour, minute, second,
    Captured.written, Captured.date, year, valid.1, Captured.hourOfDay, Captured.time, bind,
    Except.bind, pure, Except.pure]

/-- A year that does not have four digits is written with a sign. -/
theorem text_of_signed {d : Date} (h : d.year < 0 ∨ 9999 < d.year) :
    ∃ sign digits, d.text = sign :: digits ∧ sign.isDigit = false := by
  rcases h with below | above
  · exact ⟨'-', _, by simp [Date.text, Date.yearText, below]; rfl, by decide⟩
  · have notBelow : ¬ d.year < 0 := by omega
    exact ⟨'+', _, by simp [Date.text, Date.yearText, notBelow, above]; rfl, by decide⟩

theorem scan_error_of_signed {d : Date} (h : d.year < 0 ∨ 9999 < d.year) (ts : List DateToken)
    (tail : List Char) :
    ∃ fault, scan ⟨dateTokens ++ ts⟩ (String.ofList (d.text ++ tail)) = .error fault := by
  rcases text_of_signed h with ⟨sign, digits, written, notDigit⟩
  have unread : readDigits 4 4 (sign :: (digits ++ tail)) = none := by
    simp [readDigits, notDigit]
  -- The year is read first, and a sign is no digit.
  refine ⟨Misfit.shape.fault (sign :: (digits ++ tail)) (sign :: (digits ++ tail)), ?_⟩
  rw [written]
  simp [scan, dateTokens, scanRest, readToken, unread]

end DatePattern
end RefFrame
