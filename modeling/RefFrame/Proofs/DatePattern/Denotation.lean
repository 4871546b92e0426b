import Mathlib.Data.List.Induction
import RefFrame.Proofs.DatePattern.Spelling

/-!
# The date and time that a row of data says

Of several data for the same part the last one counts. A row of data says a date and a time of day if
its year, month and day are there and the other parts are there or zero, where the hour may be told by a
clock of twelve hours with its half of the day (`Denotes`).

A text that a pattern reads spells such a row (`exists_spelt_of_read`).
-/

namespace RefFrame

namespace Datum

/-- The number for a field. -/
def number? (f : DateField) : Datum → Option Nat
  | .number f' n => if f' = f then some n else none
  | _ => none

def nano? : Datum → Option Nat
  | .nano n => some n
  | _ => none

def afternoon? : Datum → Option Bool
  | .afternoon b => some b
  | _ => none

def offset? : Datum → Option Int
  | .offset s => some s
  | _ => none

/-- What the last datum of a row says that says anything of the kind. -/
def last {α : Type} (part : Datum → Option α) (ds : List Datum) : Option α :=
  (ds.filterMap part).getLast?

end Datum

open Datum

/-- The hour of the day by an hour from 0 to 23, by an hour from 1 to 12 with its half of the day, or by
nothing at all. -/
inductive HourOfDay : Option Nat → Option Nat → Option Bool → Nat → Prop
  | ofDay (hour : Nat) : HourOfDay (some hour) none none hour
  | midnight : HourOfDay none (some 12) (some false) 0
  | morning {clock : Nat} : clock < 12 → HourOfDay none (some clock) (some false) clock
  | noon : HourOfDay none (some 12) (some true) 12
  | afternoon {clock : Nat} : clock < 12 → HourOfDay none (some clock) (some true) (clock + 12)
  | unsaid : HourOfDay none none none 0

/-- A row of data says a date and a time of day. -/
structure Denotes (ds : List Datum) (c : CivilTime) : Prop where
  year : ∃ n : Nat, last (number? .year) ds = some n ∧ c.date.year = n
  month : last (number? .month) ds = some c.date.month
  day : last (number? .day) ds = some c.date.day
  hour : HourOfDay (last (number? .hour) ds) (last (number? .clockHour) ds) (last afternoon? ds)
    c.time.hour
  minute : c.time.minute = (last (number? .minute) ds).getD 0
  second : c.time.second = (last (number? .second) ds).getD 0
  nano : c.time.nano = (last nano? ds).getD 0

theorem HourOfDay.unique {hour clock : Option Nat} {half : Option Bool} {n m : Nat}
    (h : HourOfDay hour clock half n) (h' : HourOfDay hour clock half m) : n = m := by
  -- Noon and midnight have a rule of their own, which no other clock hour falls under.
  cases h <;> cases h' <;> first | rfl | omega

/-- A row of data says one date and time at most. -/
theorem Denotes.unique {ds : List Datum} {c c' : CivilTime} (h : Denotes ds c) (h' : Denotes ds c') :
    c = c' := by
  rcases c with ⟨⟨year, month, day⟩, ⟨hour, minute, second, nano⟩⟩
  rcases c' with ⟨⟨year', month', day'⟩, ⟨hour', minute', second', nano'⟩⟩
  have years : year = year' := by
    rcases h.year with ⟨n, said, rfl⟩
    rcases h'.year with ⟨n', said', rfl⟩
    rw [Option.some.inj (said.symm.trans said')]
  have months : month = month' := Option.some.inj (h.month.symm.trans h'.month)
  have days : day = day' := Option.some.inj (h.day.symm.trans h'.day)
  have hours : hour = hour' := h.hour.unique h'.hour
  have minutes : minute = minute' := h.minute.trans h'.minute.symm
  have seconds : second = second' := h.second.trans h'.second.symm
  have nanos : nano = nano' := h.nano.trans h'.nano.symm
  rw [years, months, days, hours, minutes, seconds, nanos]

namespace Captured

variable {c : Captured} {ds : List Datum} {w : WrittenTime} {hour : Option Nat}

/-- What is captured for a field. -/
def number? (f : DateField) (c : Captured) : Option Nat :=
  match f with
  | .year => c.year
  | .month => c.month
  | .day => c.day
  | .hour => c.hour
  | .clockHour => c.clockHour
  | .minute => c.minute
  | .second => c.second

/-- Captured is what the last datum of its kind says. -/
theorem part_ofData {α : Type} {get : Captured → Option α} {part : Datum → Option α}
    (put : ∀ c d, get (put c d) = (part d).or (get c)) (empty : get {} = none) (ds : List Datum) :
    get (ofData ds) = last part ds := by
  -- The induction takes data off the end, since the last one decides.
  induction ds using List.reverseRecOn with
  | nil =>
      exact empty
  | append_singleton ds d ih =>
      have step : ofData (ds ++ [d]) = (ofData ds).put d := by
        simp [ofData]
      rw [step, put, ih]
      cases said : part d <;>
        simp [last, said]

theorem number?_put (f : DateField) (c : Captured) (d : Datum) :
    number? f (c.put d) = (Datum.number? f d).or (number? f c) := by
  cases d with
  | number g n =>
      cases g <;> cases f <;> rfl
  | _ =>
      cases f <;> rfl

theorem number?_ofData (f : DateField) (ds : List Datum) :
    number? f (ofData ds) = last (Datum.number? f) ds :=
  part_ofData (number?_put f) (by cases f <;> rfl) ds

theorem nano_ofData (ds : List Datum) : (ofData ds).nano = last nano? ds :=
  part_ofData (fun _ d => by rcases d with _ | ⟨_ | _, _⟩ | _ | _ | _ <;> rfl) rfl ds

theorem afternoon_ofData (ds : List Datum) : (ofData ds).afternoon = last afternoon? ds :=
  part_ofData (fun _ d => by rcases d with _ | ⟨_ | _, _⟩ | _ | _ | _ <;> rfl) rfl ds

theorem offset_ofData (ds : List Datum) : (ofData ds).offset = last offset? ds :=
  part_ofData (fun _ d => by rcases d with _ | ⟨_ | _, _⟩ | _ | _ | _ <;> rfl) rfl ds

theorem hourOfDay_spec (checked : c.checkRanges = .ok ()) (h : c.hourOfDay = .ok hour) :
    HourOfDay c.hour c.clockHour c.afternoon (hour.getD 0) := by
  unfold hourOfDay at h
  split at h
  · rename_i n said none_clock none_half
    cases h
    rw [said, none_clock, none_half]
    exact .ofDay n
  · -- The remainder by twelve moves twelve o'clock alone to the beginning of its half.
    rename_i clock half none_hour said half_said
    cases h
    have listed : (DateField.clockHour, clock) ∈ c.ranged := by simp [ranged, said]
    have range : 1 ≤ clock ∧ clock ≤ 12 := le_of_checkRanges checked listed
    rw [none_hour, said, half_said, Option.getD_some]
    rcases Nat.lt_or_eq_of_le range.2 with before | rfl
    · have same : clock % 12 = clock := Nat.mod_eq_of_lt before
      cases half with
      | false =>
          simpa [same] using HourOfDay.morning before
      | true =>
          simpa [same] using HourOfDay.afternoon before
    · cases half with
      | false =>
          exact .midnight
      | true =>
          exact .noon
  · rename_i none_hour none_clock none_half
    cases h
    rw [none_hour, none_clock, none_half]
    exact .unsaid
  · cases h
  · cases h
  · cases h
  · cases h

theorem time_getD (c : Captured) (hour : Option Nat) :
    (c.time hour).getD .midnight =
      ⟨hour.getD 0, c.minute.getD 0, c.second.getD 0, c.nano.getD 0⟩ := by
  unfold time
  split
  · rfl
  · -- No part of a time is there, so all of them count as zero.
    rename_i nothing
    simp only [Bool.or_eq_true, not_or, Bool.not_eq_true, Option.isSome_eq_false_iff,
      Option.isNone_iff_eq_none] at nothing
    rcases nothing with ⟨⟨⟨no_hour, no_minute⟩, no_second⟩, no_nano⟩
    rw [no_hour, no_minute, no_second, no_nano]
    rfl

theorem denotes_of_written (checked : (ofData ds).checkRanges = .ok ())
    (h : (ofData ds).written = .ok w) : Denotes ds w.civil ∧ w.offset = last offset? ds := by
  simp only [written, bind_ok_iff, pure_ok_iff] at h
  rcases h with ⟨date', date, hour', hour, rfl⟩
  rcases date_eq_ok date with ⟨y, year, same, month, day, -⟩
  have parts : ∀ f, number? f (ofData ds) = last (Datum.number? f) ds :=
    fun f => number?_ofData f ds
  have clock := hourOfDay_spec checked hour
  have hours : (ofData ds).hour = last (Datum.number? .hour) ds := parts .hour
  have clockHours : (ofData ds).clockHour = last (Datum.number? .clockHour) ds := parts .clockHour
  have minutes : (ofData ds).minute = last (Datum.number? .minute) ds := parts .minute
  have seconds : (ofData ds).second = last (Datum.number? .second) ds := parts .second
  rw [hours, clockHours, afternoon_ofData] at clock
  have time := time_getD (ofData ds) hour'
  rw [minutes, seconds, nano_ofData] at time
  refine ⟨⟨⟨y, (parts .year).symm.trans year, same⟩, (parts .month).symm.trans month,
    (parts .day).symm.trans day, ?_, ?_, ?_, ?_⟩, offset_ofData ds⟩
  · rw [WrittenTime.civil, time]
    exact clock
  · rw [WrittenTime.civil, time]
  · rw [WrittenTime.civil, time]
  · rw [WrittenTime.civil, time]

end Captured

namespace DatePattern

variable {p : DatePattern} {text : String} {w : WrittenTime}

/-- A text that a pattern reads spells the date and time that are read, and the offset. -/
theorem exists_spelt_of_read (h : p.read text = .ok w) :
    ∃ ds, SpellsAll p.tokens ds text.toList ∧ Denotes ds w.civil ∧ w.offset = last offset? ds := by
  simp only [DatePattern.read, bind_ok_iff] at h
  rcases h with ⟨captured, scanned, ⟨⟩, checked, written⟩
  rcases scan_eq_ok.1 scanned with ⟨ds, spelt, rfl⟩
  exact ⟨ds, spelt, Captured.denotes_of_written checked written⟩

end DatePattern
end RefFrame
