import RefFrame.Proofs.Calendar.Successor
import RefFrame.Proofs.DatePattern.ByteReading
import RefFrame.Proofs.DatePattern.Denotation
import RefFrame.Proofs.Timestamp

/-!
# Building dates with a library

The dates, times of day and offsets that a text says are made by a library, which may have none to give:
`DateLibrary` has its four functions, and `DateLibrary.Sound` what its documentation promises of them.
`DateLibrary.build` makes a written time of what has been captured. It has something to say for whatever
the library refuses, and for a day that its month does not have it looks up the last day by way of the
month after.

Once a text is read and its numbers are in their ranges, the library refuses nothing but such a day
(`build_eq`), so a text is read safely from its first byte to its written time (`DatePattern.readsSafely`).
-/

namespace RefFrame

/-- What a library of dates and times makes, if there is such a thing: a date of its year, month and day,
the date before a date, a time of day of its hour, minute, second and nanosecond, and an offset from UTC of
its seconds. -/
structure DateLibrary where
  date? : Int → Nat → Nat → Option Date
  dayBefore? : Date → Option Date
  time? : Nat → Nat → Nat → Nat → Option TimeOfDay
  offset? : Int → Option Int

/-- A library keeps to its documentation. -/
structure DateLibrary.Sound (k : DateLibrary) : Prop where
  /-- In the years that it has, from -262143 to 262142, all dates are there that exist, and no others. -/
  date : ∀ year month day, -262143 ≤ year → year ≤ 262142 →
    k.date? year month day =
      if (⟨year, month, day⟩ : Date).IsValid then some ⟨year, month, day⟩ else none
  /-- Of two days in a row, the first is before the second. -/
  dayBefore : ∀ d : Date, d.IsValid → -262143 ≤ d.year → d.next.year ≤ 262142 →
    k.dayBefore? d.next = some d
  /-- A time of day that a clock shows is there. -/
  time : ∀ t : TimeOfDay, t.IsValid → k.time? t.hour t.minute t.second t.nano = some t
  /-- An offset of less than a day is there. -/
  offset : ∀ s, -86400 < s → s < 86400 → k.offset? s = some s

/-- Why nothing is built of what has been captured. -/
inductive BuildFault
  | date (fault : DateFault)
  /-- The library has no such time of day. -/
  | timeOfDay
  /-- The library has no such offset. -/
  | offset (seconds : Int)
  deriving DecidableEq, Repr

def BuildFault.message : BuildFault → String
  | date fault => fault.message
  | timeOfDay => "invalid time of day"
  | offset seconds => "offset of " ++ toString seconds ++ " seconds is not representable"

/-- What is wrong with a date, as an end of building. -/
def DateFault.mishap (fault : DateFault) : Mishap BuildFault :=
  .fault (.date fault)

namespace DateLibrary

/-- The month after a month. -/
def nextMonth (year : Int) (month : Nat) : Except (Mishap BuildFault) (Int × Nat) :=
  if month = 12 then do return (← signedWord (year + 1), 1)
  else do return (year, ← word (month + 1))

variable (k : DateLibrary)

/-- The number of the last day of a month, the day before the first of the month after. -/
def lastDay (year : Int) (month : Nat) : Except (Mishap BuildFault) Nat := do
  let (year, month) ← nextMonth year month
  return ((k.date? year month 1).bind k.dayBefore?).elim 31 Date.day

/-- Makes the date. -/
def buildDate (c : Captured) : Except (Mishap BuildFault) Date :=
  match c.year, c.month, c.day with
  | some y, some m, some d => do
    let year ← signedWord y
    match k.date? year m d with
    | some date => return date
    | none =>
      let last ← k.lastDay year m
      .error (DateFault.range ⟨DateField.day.name, 1, last, d⟩).mishap
  | _, _, _ => .error (DateFault.parts .incompleteDate).mishap

/-- The hour of the day, in a word. -/
def buildHour (c : Captured) : Except (Mishap BuildFault) (Option Nat) := do
  match ← c.hourOfDay.mapError DateFault.mishap with
  | some hour => return some (← word hour)
  | none => return none

/-- Makes the time of day if any part of one is there. -/
def buildTime (c : Captured) (hour : Option Nat) : Except (Mishap BuildFault) (Option TimeOfDay) :=
  match c.time hour with
  | some t =>
    match k.time? t.hour t.minute t.second t.nano with
    | some time => .ok (some time)
    | none => .error (.fault .timeOfDay)
  | none => .ok none

/-- Makes the offset if one is written. -/
def buildOffset (c : Captured) : Except (Mishap BuildFault) (Option Int) :=
  match c.offset with
  | some seconds =>
    match k.offset? seconds with
    | some offset => .ok (some offset)
    | none => .error (.fault (.offset seconds))
  | none => .ok none

/-- Makes a written time of what has been captured. -/
def build (c : Captured) : Except (Mishap BuildFault) WrittenTime := do
  let date ← k.buildDate c
  let hour ← buildHour c
  let time ← k.buildTime c hour
  let offset ← k.buildOffset c
  return ⟨date, time, offset⟩

/-- Reads a text by a pattern to its end, and builds what it says. -/
def readBytes (p : DatePattern) (text : String) : Except (Mishap BuildFault) WrittenTime := do
  let c ← (p.scanBytes text).mapError (Mishap.map .date)
  c.checkRanges.mapError DateFault.mishap
  k.build c

/-! ## Parts -/

variable {k} {c : Captured} {year : Int} {y month m d : Nat} {hour : Option Nat} {f : RangeFault}

/-- The day after the last of a month is the first of the month after. -/
theorem next_of_last {last : Date} (final : last.day = Date.daysInMonth last.year last.month)
    (low : 0 ≤ last.year) (high : last.year ≤ 9999) (month_le : last.month ≤ 12) :
    nextMonth last.year last.month = .ok (last.next.year, last.next.month) ∧ last.next.day = 1 ∧
      0 ≤ last.next.year ∧ last.next.year ≤ 10000 := by
  have full : ¬ last.day < Date.daysInMonth last.year last.month := by omega
  by_cases december : last.month = 12
  · have next : last.next = ⟨last.year + 1, 1, 1⟩ := by
      rw [Date.next, if_neg full, if_neg (by omega)]
    have next_year : signedWord (last.year + 1) =
        (.ok (last.year + 1) : Except (Mishap BuildFault) Int) := signedWord_eq (by omega) (by omega)
    rw [next, nextMonth, if_pos december, next_year]
    exact ⟨rfl, rfl, by simp only; omega, by simp only; omega⟩
  · have next : last.next = ⟨last.year, last.month + 1, 1⟩ := by
      rw [Date.next, if_neg full, if_pos (by omega)]
    have next_month : word (last.month + 1) =
        (.ok (last.month + 1) : Except (Mishap BuildFault) Nat) := word_eq (by omega)
    rw [next, nextMonth, if_neg december, next_month]
    exact ⟨rfl, rfl, low, by simp only; omega⟩

/-- The day before the first of the next month is the last of the month, so its number is the length of
the month. -/
theorem lastDay_eq (sound : k.Sound) (low : 0 ≤ year) (high : year ≤ 9999) (month_pos : 1 ≤ month)
    (month_le : month ≤ 12) : k.lastDay year month = .ok (Date.daysInMonth year month) := by
  let last : Date := ⟨year, month, Date.daysInMonth year month⟩
  have valid : last.IsValid :=
    ⟨month_pos, month_le, Date.daysInMonth_pos month_pos month_le, Nat.le_refl _⟩
  have low_last : -262143 ≤ last.year := Int.le_trans (by decide) low
  rcases @next_of_last last rfl low high month_le with ⟨next, first, next_low, next_high⟩
  have day_after : k.date? last.next.year last.next.month 1 = some last.next := by
    rw [← first, sound.date _ _ _ (by omega) (by omega), if_pos (Date.isValid_next valid)]
  have day_before : k.dayBefore? last.next = some last :=
    sound.dayBefore last valid low_last (by omega)
  have after : nextMonth year month = .ok (last.next.year, last.next.month) := next
  rw [lastDay, after]
  simp only [bind, Except.bind, day_after, Option.bind, day_before]
  rfl

theorem buildDate_eq (sound : k.Sound) (bounded : c.Bounded) (checked : c.checkRanges = .ok ()) :
    k.buildDate c = c.date.mapError DateFault.mishap := by
  rcases c with ⟨_ | y, _ | m, _ | d⟩
  case some.some.some =>
    have few : y < 10 ^ 4 := bounded.year y rfl
    have of_year : 1 ≤ m ∧ m ≤ 12 := Captured.le_of_checkRanges checked List.mem_cons_self
    have year_word : signedWord (y : Int) = (.ok (y : Int) : Except (Mishap BuildFault) Int) :=
      signedWord_eq (by omega) (by omega)
    simp only [buildDate, Captured.date, year_word, bind, Except.bind,
      sound.date y m d (by omega) (by omega)]
    by_cases valid : (⟨y, m, d⟩ : Date).IsValid
    · simp only [if_pos valid]
      rfl
    · have last : k.lastDay y m = .ok (Date.daysInMonth y m) :=
        lastDay_eq sound (by omega) (by omega) of_year.1 of_year.2
      simp only [if_neg valid, last]
      rfl
  -- A part is missing.
  all_goals rfl

theorem buildHour_eq (checked : c.checkRanges = .ok ()) :
    buildHour c = c.hourOfDay.mapError DateFault.mishap := by
  unfold buildHour
  cases found : c.hourOfDay with
  | error fault =>
      rfl
  | ok hour =>
      cases hour with
      | none =>
          rfl
      | some n =>
          have small : n < 24 := Captured.hourOfDay_lt checked found
          have hour_word : word n = (.ok n : Except (Mishap BuildFault) Nat) := word_eq (by omega)
          simp only [Except.mapError, bind, Except.bind, hour_word]
          rfl

theorem buildTime_eq (sound : k.Sound) (bounded : c.Bounded) (checked : c.checkRanges = .ok ())
    (h : c.hourOfDay = .ok hour) : k.buildTime c hour = .ok (c.time hour) := by
  have valid := Captured.isValid_time bounded checked h
  unfold buildTime
  cases found : c.time hour with
  | none =>
      rfl
  | some t =>
      rw [found, Option.getD_some] at valid
      simp only [sound.time t valid]

theorem buildOffset_eq (sound : k.Sound) (near : ∀ s, c.offset = some s → s.natAbs < 86400) :
    k.buildOffset c = .ok c.offset := by
  unfold buildOffset
  cases found : c.offset with
  | none =>
      rfl
  | some s =>
      have small : s.natAbs < 86400 := near s found
      simp only [sound.offset s (by omega) (by omega)]

/-- What has been captured in the ranges of its fields is built as it is written. -/
theorem build_eq (sound : k.Sound) (bounded : c.Bounded)
    (near : ∀ s, c.offset = some s → s.natAbs < 86400) (checked : c.checkRanges = .ok ()) :
    k.build c = c.written.mapError DateFault.mishap := by
  unfold build Captured.written
  rw [buildDate_eq sound bounded checked, buildHour_eq checked]
  cases c.date with
  | error fault =>
      rfl
  | ok date =>
      cases hours : c.hourOfDay with
      | error fault =>
          rfl
      | ok hour =>
          simp only [Except.mapError, bind, Except.bind, buildTime_eq sound bounded checked hours,
            buildOffset_eq sound near]
          rfl

end DateLibrary

/-! ## What is captured of a text -/

namespace Captured

variable {c : Captured} {f : RangeFault}

/-- With the numbers in their ranges, a date is out of range if its day is behind the end of its month. -/
theorem date_eq_range (checked : c.checkRanges = .ok ()) :
    c.date = .error (.range f) ↔
      ∃ y m d : Nat, c.year = some y ∧ c.month = some m ∧ c.day = some d ∧
        Date.daysInMonth y m < d ∧ f = ⟨"DayOfMonth", 1, Date.daysInMonth y m, d⟩ := by
  have valid_iff : ∀ y m d : Nat, c.month = some m → c.day = some d →
      ((⟨y, m, d⟩ : Date).IsValid ↔ d ≤ Date.daysInMonth y m) := by
    intro y m d month day
    have months : 1 ≤ m ∧ m ≤ 12 :=
      le_of_checkRanges checked (show (DateField.month, m) ∈ c.ranged by simp [ranged, month])
    have days : 1 ≤ d ∧ d ≤ 31 :=
      le_of_checkRanges checked (show (DateField.day, d) ∈ c.ranged by simp [ranged, day])
    exact ⟨fun valid => valid.2.2.2, fun within => ⟨months.1, months.2, days.1, within⟩⟩
  constructor
  · intro h
    unfold Captured.date at h
    split at h
    · rename_i y m d year month day
      dsimp only at h
      split at h
      · cases h
      · rename_i invalid
        rw [valid_iff y m d month day, Nat.not_le] at invalid
        cases h
        exact ⟨y, m, d, year, month, day, invalid, rfl⟩
    · cases h
  · rintro ⟨y, m, d, year, month, day, behind, rfl⟩
    have invalid : ¬ (⟨y, m, d⟩ : Date).IsValid := by
      rw [valid_iff y m d month day]
      exact Nat.not_le.2 behind
    simp only [Captured.date, year, month, day, if_neg invalid]
    rfl

/-- Nothing else about a written time is out of range. -/
theorem written_eq_range : c.written = .error (.range f) ↔ c.date = .error (.range f) := by
  rw [written, bind_error_iff]
  constructor
  · rintro (date | ⟨date, -, later⟩)
    · exact date
    · rcases bind_error_iff.1 later with hour | ⟨hour, -, nothing⟩
      · unfold hourOfDay at hour
        split at hour <;> cases hour
      · cases nothing
  · exact .inl

end Captured

namespace DatePattern

variable {ts : List DateToken} {ds : List Datum} {cs : List Char} {s : Int} {p : DatePattern}
  {pattern text : String} {c : Captured}

/-- An offset that a text spells is less than a day. -/
theorem SpellsAll.natAbs_lt (h : SpellsAll ts ds cs) (mem : Datum.offset s ∈ ds) : s.natAbs < 86400 := by
  induction h with
  | nil =>
      cases mem
  | cons spelt later ih =>
      rcases List.mem_cons.1 mem with rfl | mem
      · cases spelt with
        | offset spelt =>
            cases spelt with
            | utc =>
                decide
            | signed _ _ _ hours minutes =>
                split <;> omega
      · exact ih mem

theorem natAbs_lt_of_scan (h : p.scan text = .ok c) (said : c.offset = some s) : s.natAbs < 86400 := by
  rcases scan_eq_ok.1 h with ⟨ds, spelt, rfl⟩
  rw [Captured.offset_ofData] at said
  rcases List.mem_filterMap.1 (List.mem_of_getLast? said) with ⟨d, mem, says_so⟩
  cases d with
  | offset s' =>
      cases says_so
      exact spelt.natAbs_lt mem
  | _ =>
      cases says_so

/-! ## From the first byte to the written time -/

/-- What is sure of a text that is read by a pattern and built with a library. -/
structure ReadsSafely (k : DateLibrary) (p : DatePattern) (text : String) : Prop where
  /-- No cut goes through a character. -/
  whole : p.scanBytes text ≠ .error .torn
  /-- Every number that is read has room in its word. -/
  roomy : p.scanBytes text ≠ .error .overflow
  /-- By bytes and words is read what is there. -/
  scanned : p.scanBytes text = (p.scan text).mapError .fault
  /-- What is misshapen is so from some place between two characters on. -/
  boundary : ∀ literal index, p.scanBytes text = .error (.fault (.shape literal index)) →
    literal = text ∧ (⟨index⟩ : String.Pos.Raw).IsValid text ∧ index ≤ text.utf8ByteSize
  /-- The library has the time of day and the offset, and the numbers on the way have room. -/
  accepted : ∀ c, p.scanBytes text = .ok c → c.checkRanges = .ok () →
    k.build c ≠ .error .torn ∧ k.build c ≠ .error .overflow ∧
      k.build c ≠ .error (.fault .timeOfDay) ∧ ∀ s, k.build c ≠ .error (.fault (.offset s))
  /-- A date that is complete is refused if its month has no such day, with the days it has. -/
  day : ∀ c f, p.scanBytes text = .ok c → c.checkRanges = .ok () →
    (k.build c = .error (.fault (.date (.range f))) ↔
      ∃ y m d : Nat, c.year = some y ∧ c.month = some m ∧ c.day = some d ∧
        Date.daysInMonth y m < d ∧ f = ⟨"DayOfMonth", 1, Date.daysInMonth y m, d⟩ ∧
          (BuildFault.date (.range f)).message =
            "Invalid value for DayOfMonth (valid values 1 - " ++ toString (Date.daysInMonth y m) ++
              "): " ++ toString d)
  /-- The text is read to the end as it is by characters and the calendar. -/
  read : k.readBytes p text = (p.read text).mapError DateFault.mishap

theorem message_day (n d : Nat) :
    (RangeFault.mk "DayOfMonth" 1 n d).message =
      "Invalid value for DayOfMonth (valid values 1 - " ++ toString n ++ "): " ++ toString d := by
  rfl

theorem readsSafely {k : DateLibrary} (sound : k.Sound) (compiled : compile pattern = .ok p)
    (text : String) : ReadsSafely k p text := by
  have scanned := scanBytes_eq compiled text
  have scan_ok : ∀ c, p.scanBytes text = .ok c → p.scan text = .ok c := by
    intro c
    rw [scanned, mapError_ok_iff]
    exact id
  have built : ∀ c, p.scan text = .ok c → c.checkRanges = .ok () →
      k.build c = c.written.mapError DateFault.mishap := by
    intro c scan checked
    exact DateLibrary.build_eq sound (TimeFrame.bounded_scan compiled scan)
      (fun _ => natAbs_lt_of_scan scan) checked
  -- A written time has no faults but those of the date, so none of the library's refusals is among them.
  have built_error : ∀ {c mishap}, p.scanBytes text = .ok c → c.checkRanges = .ok () →
      k.build c = .error mishap → ∃ fault, mishap = .fault (.date fault) := by
    intro c mishap scan checked failed
    rw [built c (scan_ok c scan) checked, mapError_error_iff] at failed
    rcases failed with ⟨fault, -, rfl⟩
    exact ⟨fault, rfl⟩
  refine ⟨?whole, ?roomy, scanned, ?boundary, ?accepted, ?day, ?read⟩
  case whole =>
    rw [scanned]
    cases p.scan text <;> nofun
  case roomy =>
    rw [scanned]
    cases p.scan text <;> nofun
  case boundary =>
    intro literal index misshapen
    rw [scanned, mapError_error_iff] at misshapen
    rcases misshapen with ⟨fault, scan, ⟨⟩⟩
    exact isValid_of_scan_eq_shape scan
  case accepted =>
    intro c scan checked
    refine ⟨fun torn => ?_, fun overflow => ?_, fun refused => ?_, fun s refused => ?_⟩
    · rcases built_error scan checked torn with ⟨fault, ⟨⟩⟩
    · rcases built_error scan checked overflow with ⟨fault, ⟨⟩⟩
    · rcases built_error scan checked refused with ⟨fault, ⟨⟩⟩
    · rcases built_error scan checked refused with ⟨fault, ⟨⟩⟩
  case day =>
    intro c f scan checked
    have refused : k.build c = .error (.fault (.date (.range f))) ↔ c.date = .error (.range f) := by
      rw [built c (scan_ok c scan) checked, mapError_error_iff, ← Captured.written_eq_range]
      constructor
      · rintro ⟨fault, failed, ⟨⟩⟩
        exact failed
      · intro failed
        exact ⟨_, failed, rfl⟩
    rw [refused, Captured.date_eq_range checked]
    constructor
    · rintro ⟨y, m, d, year, month, day, behind, rfl⟩
      exact ⟨y, m, d, year, month, day, behind, rfl, message_day _ d⟩
    · rintro ⟨y, m, d, year, month, day, behind, same, -⟩
      exact ⟨y, m, d, year, month, day, behind, same⟩
  case read =>
    simp only [DateLibrary.readBytes, DatePattern.read, scanned]
    cases scan : p.scan text with
    | error fault =>
        rfl
    | ok c =>
        cases checked : c.checkRanges with
        | error fault =>
            simp only [Except.mapError, bind, Except.bind, checked]
        | ok =>
            simp only [Except.mapError, bind, Except.bind, checked]
            exact built c scan checked

/-! ## A library -/

/-- The library that has all dates and times of the calendar, with leap seconds as fractions of two
seconds. -/
def calendarLibrary : DateLibrary where
  date? year month day :=
    if -262143 ≤ year ∧ year ≤ 262142 ∧ (⟨year, month, day⟩ : Date).IsValid then
      some ⟨year, month, day⟩
    else none
  dayBefore? d :=
    let before := Date.ofDayNumber (d.dayNumber - 1)
    if -262143 ≤ before.year then some before else none
  time? hour minute second nano :=
    if hour < 24 ∧ minute < 60 ∧ second < 60 ∧
        (nano < 1000000000 ∨ second = 59 ∧ nano < 2000000000) then
      some ⟨hour, minute, second, nano⟩
    else none
  offset? s := if -86400 < s ∧ s < 86400 then some s else none

theorem sound_calendarLibrary : calendarLibrary.Sound where
  date year month day low high := by
    simp only [calendarLibrary, low, high, true_and]
  dayBefore d valid low high := by
    have before : Date.ofDayNumber (d.next.dayNumber - 1) = d := by
      rw [Date.dayNumber_next valid, Int.add_sub_cancel, Date.ofDayNumber_dayNumber valid]
    simp only [calendarLibrary, before, if_pos low]
  time t valid := if_pos ⟨valid.1, valid.2.1, valid.2.2.1, .inl valid.2.2.2⟩
  offset s low high := if_pos ⟨low, high⟩

/-- The tokens of a date with the characters for year, month and day. -/
def yearMonthDay : List DateToken :=
  [.number .year 4 4, .literal ['年'], .number .month 1 2, .literal ['月'], .number .day 1 2,
    .literal ['日']]

/-- The thirtieth of February is refused behind the twenty-eighth, and a text without its month at the
place of the missing character, eight bytes from the front. -/
theorem readsSafely_february :
    calendarLibrary.Sound ∧ compile "yyyy年M月d日" = .ok ⟨yearMonthDay⟩ ∧
      ReadsSafely calendarLibrary ⟨yearMonthDay⟩ "2019年2月30日" ∧
      calendarLibrary.readBytes ⟨yearMonthDay⟩ "2019年2月30日" =
        .error (DateFault.range ⟨"DayOfMonth", 1, 28, 30⟩).mishap ∧
      scanBytes ⟨yearMonthDay⟩ "2019年2日" = .error (.fault (.shape "2019年2日" 8)) := by
  have compiled : compile "yyyy年M月d日" = .ok ⟨yearMonthDay⟩ := by
    decide +kernel
  refine ⟨sound_calendarLibrary, compiled, readsSafely sound_calendarLibrary compiled _, ?_, ?_⟩
  · decide +kernel
  · decide +kernel

end DatePattern
end RefFrame
