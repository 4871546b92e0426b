import RefFrame.Proofs.DatePattern.Canonical
import RefFrame.Proofs.DatePattern.Spelling
import RefFrame.Proofs.Fallible
import RefFrame.Timestamp
import RefFrame.Zone.Table

/-!
# Canonical texts as fixed points

`TimeFrame.convert_canonical_iff` says when converting is done once and for all: the canonical frame
gives a converted text back exactly if its year is one of those that the canonical pattern reads.
Dates always are. A point in time may leave the range, since bringing it to UTC can take it over the
end of year 9999, or before the beginning of year 0.
-/

namespace RefFrame
namespace TimeFrame

open DatePattern

variable {f : TimeFrame} {kind : TimeKind} {format text s : String} {w : WrittenTime} {d : Date}
  {c : CivilTime}

theorem bounded_scan {p : DatePattern} {captured : Captured} (compiled : compile format = .ok p)
    (h : p.scan text = .ok captured) : captured.Bounded := by
  rcases scan_eq_ok.1 h with ⟨ds, spelt, rfl⟩
  have read : scanRest text.toList p.tokens text.toList = .ok ds := scanRest_eq_ok.2 spelt
  exact Captured.bounded_ofData (bounded_scanRest (bounded_compile compiled) read)

/-- A text that a pattern reads names a civil time that exists, in a year of four digits. -/
theorem read_spec {p : DatePattern} (compiled : compile format = .ok p)
    (h : p.read text = .ok w) :
    w.civil.IsValid ∧ 0 ≤ w.date.year ∧ w.date.year ≤ 9999 := by
  simp only [DatePattern.read, bind_ok_iff] at h
  rcases h with ⟨captured, scanned, ⟨⟩, checked, written⟩
  exact Captured.written_spec (bounded_scan compiled scanned) checked written

section

variable [ZoneLibrary]

theorem convert_eq_ok :
    f.convert text = .ok s ↔ ∃ p w zone cs, compile f.format = .ok p ∧ p.read text = .ok w ∧
      resolveZone f.zone = .ok zone ∧ canonicalText f.kind w zone = .ok cs ∧
        s = String.ofList cs := by
  simp only [convert, bind_ok_iff, mapError_ok_iff, pure_ok_iff]
  constructor
  · rintro ⟨p, compiled, w, read, zone, known, cs, written, rfl⟩
    exact ⟨p, w, zone, cs, compiled, read, known, written, rfl⟩
  · rintro ⟨p, w, zone, cs, compiled, read, known, written, rfl⟩
    exact ⟨p, compiled, w, read, zone, known, cs, written, rfl⟩

theorem resolveZone_canonical (kind : TimeKind) :
    resolveZone (canonical kind).zone =
      .ok (match kind with
        | .date => none
        | .dateTime => some (.fixed 0)) := by
  cases kind <;> rfl

/-- Converting comes to a date in a year of four digits, or to a point in time in any year. -/
theorem text_of_convert (h : f.convert text = .ok s) :
    (f.kind = .date ∧ ∃ d : Date, d.IsValid ∧ 0 ≤ d.year ∧ d.year ≤ 9999 ∧
        s = String.ofList d.text) ∨
      (f.kind = .dateTime ∧ ∃ c : CivilTime, c.IsValid ∧ s = String.ofList c.utcMilliText) := by
  rcases convert_eq_ok.1 h with ⟨p, w, zone, cs, compiled, read, -, written, rfl⟩
  rcases read_spec compiled read with ⟨valid, low, high⟩
  unfold canonicalText at written
  cases kind : f.kind with
  | date =>
      simp only [kind, Except.ok.injEq] at written
      exact Or.inl ⟨rfl, w.date, valid.1, low, high, by rw [written]⟩
  | dateTime =>
      cases instant : instant? w zone with
      | none =>
          simp [kind, instant] at written
      | some u =>
          simp only [kind, instant, Except.ok.injEq] at written
          exact Or.inr ⟨rfl, _, CivilTime.isValid_ofSeconds u valid.2.2.2.2, by rw [written]⟩

theorem convert_canonical_eq_ok {cs : List Char}
    (read : DatePattern.read ⟨dateTokens ++ timeTokens⟩ text = .ok w)
    (written : canonicalText .dateTime w (some (.fixed 0)) = .ok cs) :
    (canonical .dateTime).convert text = .ok (String.ofList cs) :=
  convert_eq_ok.2 ⟨_, w, _, cs, compile_canonical .dateTime, read, resolveZone_canonical .dateTime,
    written, rfl⟩

theorem convert_canonical_date (valid : d.IsValid) (low : 0 ≤ d.year) (high : d.year ≤ 9999) :
    (canonical .date).convert (String.ofList d.text) = .ok (String.ofList d.text) :=
  convert_eq_ok.2 ⟨_, _, _, _, compile_canonical .date, read_date valid low high,
    resolveZone_canonical .date, rfl, rfl⟩

/-- A canonical point in time is given back when its year has four digits. -/
theorem convert_canonical_dateTime (valid : c.IsValid) (low : 0 ≤ c.date.year)
    (high : c.date.year ≤ 9999) :
    (canonical .dateTime).convert (String.ofList c.utcMilliText) =
      .ok (String.ofList c.utcMilliText) := by
  refine convert_canonical_eq_ok (read_dateTime valid low high) ?_
  -- The instant that is read lies in the calendar, and shows the time that was written.
  have cut_lt : c.time.nano / 1_000_000 * 1_000_000 < 1_000_000_000 := by
    have nano_lt : c.time.nano < 1_000_000_000 := valid.2.2.2.2
    omega
  have cut : CivilTime.IsValid ⟨c.date, { c.time with nano := c.time.nano / 1_000_000 * 1_000_000 }⟩ :=
    ⟨valid.1, valid.2.1, valid.2.2.1, valid.2.2.2.1, cut_lt⟩
  have instant : instant?
      ⟨c.date, some { c.time with nano := c.time.nano / 1_000_000 * 1_000_000 }, some 0⟩
      (some (.fixed 0)) = some c.seconds := by
    show (Zone.fixed 0).earliest? c.seconds = some c.seconds
    simp [Zone.earliest?, CivilTime.inCalendar_seconds valid low high]
  have shown : CivilTime.ofSeconds c.seconds (c.time.nano / 1_000_000 * 1_000_000) =
      ⟨c.date, { c.time with nano := c.time.nano / 1_000_000 * 1_000_000 }⟩ :=
    CivilTime.ofSeconds_seconds cut
  have millis : c.time.nano / 1_000_000 * 1_000_000 / 1_000_000 = c.time.nano / 1_000_000 := by omega
  have same : (CivilTime.ofSeconds c.seconds (c.time.nano / 1_000_000 * 1_000_000)).utcMilliText =
      c.utcMilliText := by
    simp only [shown, CivilTime.utcMilliText, TimeOfDay.text, TimeOfDay.milliText, millis]
  simp only [canonicalText, instant, Except.ok.injEq]
  exact same

theorem not_convert_canonical_of_signed (h : c.date.year < 0 ∨ 9999 < c.date.year) :
    (canonical .dateTime).convert (String.ofList c.utcMilliText) ≠ .ok s := by
  intro converted
  -- Already the pattern fails, at the sign.
  rcases convert_eq_ok.1 converted with ⟨p, w, zone, cs, compiled, read, -, -, -⟩
  rw [compile_canonical, Except.ok.injEq] at compiled
  have parts : c.utcMilliText =
      c.date.text ++ ('T' :: c.time.text ++ c.time.milliText ++ ['Z']) := by
    simp [CivilTime.utcMilliText]
  rcases scan_error_of_signed h timeTokens ('T' :: c.time.text ++ c.time.milliText ++ ['Z'])
    with ⟨fault, failed⟩
  rw [← compiled, parts] at read
  simp only [DatePattern.read, failed, bind, Except.bind] at read
  cases read

/-- A converted text is given back unless it shows a year that does not have four digits. -/
theorem convert_canonical_of_years (h : f.convert text = .ok s)
    (years : ∀ c : CivilTime, c.IsValid → s = String.ofList c.utcMilliText →
      0 ≤ c.date.year ∧ c.date.year ≤ 9999) : (canonical f.kind).convert s = .ok s := by
  rcases text_of_convert h with ⟨date, d, valid, low, high, rfl⟩ | ⟨dateTime, c, valid, rfl⟩
  · rw [date]
    exact convert_canonical_date valid low high
  · rw [dateTime]
    rcases years c valid rfl with ⟨low, high⟩
    exact convert_canonical_dateTime valid low high

/-- Converted texts are fixed points, except for the points in time whose year in UTC does not have
four digits. -/
theorem convert_canonical_iff (h : f.convert text = .ok s) :
    (canonical f.kind).convert s = .ok s ↔
      (f.kind = .dateTime → ∃ c : CivilTime, c.IsValid ∧ 0 ≤ c.date.year ∧ c.date.year ≤ 9999 ∧
        s = String.ofList c.utcMilliText) := by
  rcases text_of_convert h with ⟨date, d, valid, low, high, rfl⟩ | ⟨dateTime, c, valid, rfl⟩
  · rw [date]
    simp [convert_canonical_date valid low high]
  · -- What the conversion shows is some point in time, and its year decides.
    rw [dateTime]
    constructor
    · intro again _
      by_cases year : 0 ≤ c.date.year ∧ c.date.year ≤ 9999
      · exact ⟨c, valid, year.1, year.2, rfl⟩
      · have signed : c.date.year < 0 ∨ 9999 < c.date.year := by omega
        exact absurd again (not_convert_canonical_of_signed signed)
    · intro inRange
      rcases inRange rfl with ⟨c', valid', low, high, same⟩
      rw [same]
      exact convert_canonical_dateTime valid' low high

end

open BuiltIn in
theorem convert_canonical_iff_august :
    (canonical .dateTime).convert "2019-08-03T09:30:00.000+02:00" =
        .ok "2019-08-03T07:30:00.000Z" ∧
      ((canonical .dateTime).convert "2019-08-03T07:30:00.000Z" = .ok "2019-08-03T07:30:00.000Z" ↔
        (TimeKind.dateTime = .dateTime → ∃ c : CivilTime, c.IsValid ∧ 0 ≤ c.date.year ∧
          c.date.year ≤ 9999 ∧ "2019-08-03T07:30:00.000Z" = String.ofList c.utcMilliText)) := by
  have read : DatePattern.read ⟨dateTokens ++ timeTokens⟩ "2019-08-03T09:30:00.000+02:00" =
      .ok ⟨⟨2019, 8, 3⟩, some ⟨9, 30, 0, 0⟩, some 7200⟩ := rfl
  have written : canonicalText .dateTime ⟨⟨2019, 8, 3⟩, some ⟨9, 30, 0, 0⟩, some 7200⟩
      (some (.fixed 0)) = .ok "2019-08-03T07:30:00.000Z".toList := rfl
  have converted := convert_canonical_eq_ok read written
  rw [String.ofList_toList] at converted
  have fixed := convert_canonical_iff converted
  rw [show (canonical .dateTime).kind = .dateTime from rfl] at fixed
  exact ⟨converted, fixed⟩

open BuiltIn in
/-- Half an hour before the end of year 9999, five hours west of UTC. -/
theorem not_fixed_end_of_9999 :
    (canonical .dateTime).convert "9999-12-31T23:30:00.000-05:00" =
        .ok "+10000-01-01T04:30:00.000Z" ∧
      (canonical .dateTime).convert "+10000-01-01T04:30:00.000Z" ≠
        .ok "+10000-01-01T04:30:00.000Z" := by
  have read : DatePattern.read ⟨dateTokens ++ timeTokens⟩ "9999-12-31T23:30:00.000-05:00" =
      .ok ⟨⟨9999, 12, 31⟩, some ⟨23, 30, 0, 0⟩, some (-18000)⟩ := rfl
  have written : canonicalText .dateTime ⟨⟨9999, 12, 31⟩, some ⟨23, 30, 0, 0⟩, some (-18000)⟩
      (some (.fixed 0)) = .ok "+10000-01-01T04:30:00.000Z".toList := rfl
  have converted := convert_canonical_eq_ok read written
  rw [String.ofList_toList] at converted
  refine ⟨converted, ?_⟩
  have text : "+10000-01-01T04:30:00.000Z" =
      String.ofList (CivilTime.utcMilliText ⟨⟨10000, 1, 1⟩, ⟨4, 30, 0, 0⟩⟩) := rfl
  rw [text]
  exact not_convert_canonical_of_signed (Or.inr (by decide))

end TimeFrame
end RefFrame
