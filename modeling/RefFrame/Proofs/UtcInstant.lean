import RefFrame.Proofs.Calendar.Successor
import RefFrame.Proofs.Calendar.UtcText
import RefFrame.Proofs.DatePattern.Denotation
import RefFrame.Proofs.Timestamp

/-!
# Which instant a converted text names

A point in time is written by the clock of some place, and converting writes it by the clock of UTC.
`TimeFrame.Renders` says what the two texts have to do with each other. The one spells a civil time under
the pattern of the frame, the other is read as a civil time in UTC, and the clock of the place is ahead of
UTC by the offset: going on from the time in UTC by so many seconds leads to the time of the place, over
the ends of days, months and years where they come. The zone makes no difference where the text has an
offset of its own, and neither makes one to a date.
-/

namespace RefFrame
namespace TimeFrame

open DatePattern Datum CivilTime

variable {f : TimeFrame} {text s : String} {w : WrittenTime} {c : CivilTime} {cs : List Char}
  {ds : List Datum} {zone zone' : Option String} {z : Option Zone} {offset u : Int}

/-- The text is the point in UTC, in milliseconds, at which a clock ahead by `offset` shows `c`. -/
def InUtc (s : String) (offset : Int) (c : CivilTime) : Prop :=
  ∃ u, ofUtcText? s.toList = some u ∧ u.IsValid ∧ LaterBy offset u c.cut

theorem inUtc_utcMilliText (valid : c.IsValid) (total : u + offset = c.seconds) :
    InUtc (String.ofList (ofSeconds u c.time.nano).utcMilliText) offset c := by
  have in_utc : (ofSeconds u c.time.nano).IsValid := isValid_ofSeconds u valid.2.2.2.2
  have later : LaterBy offset (ofSeconds u c.time.nano).cut c.cut := by
    refine (laterBy_iff (isValid_cut in_utc) (isValid_cut valid)).2 ⟨?_, rfl⟩
    -- Cutting the fractions leaves the whole seconds as they are.
    calc
      (ofSeconds u c.time.nano).cut.seconds + offset = u + offset := by
        rw [show (ofSeconds u c.time.nano).cut.seconds = u from seconds_ofSeconds u c.time.nano]
      _ = c.cut.seconds := total
  refine ⟨(ofSeconds u c.time.nano).cut, ?_, isValid_cut in_utc, later⟩
  rw [String.toList_ofList, ofUtcText?_utcMilliText in_utc]

section

variable [ZoneLibrary]

/-- The seconds that the clock of a text is ahead of UTC: its own offset, else that of a zone with a
fixed one, else none without a zone. -/
inductive CountsBy (zone : Option String) (ds : List Datum) : Int → Prop
  | own {offset : Int} :
      last offset? ds = some offset → CountsBy zone ds offset
  | zone {id : String} {offset : Int} :
      last offset? ds = none → zone = some id → Zone.ofId? id = some (.fixed offset) →
        CountsBy zone ds offset
  | utc :
      last offset? ds = none → zone = none → CountsBy zone ds 0

/-- A zone that resolves, or none. -/
def KnownZone (zone : Option String) : Prop :=
  ∀ id ∈ zone, (Zone.ofId? id).isSome

/-- What a text that a frame converts has to do with the text that it comes to: the data that it spells
under a pattern, the date and time that they say, and how these are written in the end. -/
structure Renders (f : TimeFrame) (text s : String) (p : DatePattern) (ds : List Datum)
    (c : CivilTime) : Prop where
  pattern : compile f.format = .ok p
  spells : SpellsAll p.tokens ds text.toList
  denotes : Denotes ds c
  valid : c.IsValid
  instant : f.kind = .dateTime → ∀ offset, CountsBy f.zone ds offset → InUtc s offset c
  ownOffset : f.kind = .dateTime → (last offset? ds).isSome →
    ∀ zone, KnownZone zone → { f with zone }.convert text = .ok s
  date : f.kind = .date → Date.ofText? s.toList = some c.date
  anyZone : f.kind = .date → ∀ zone, KnownZone zone → { f with zone }.convert text = .ok s

theorem resolveZone_of_known (h : KnownZone zone) : ∃ z, resolveZone zone = .ok z := by
  cases zone with
  | none =>
      exact ⟨none, rfl⟩
  | some id =>
      obtain ⟨z, found⟩ := Option.isSome_iff_exists.1 (h id rfl)
      exact ⟨some z, by simp only [resolveZone, found]⟩

theorem canonicalText_dateTime_eq_ok :
    canonicalText .dateTime w z = .ok cs ↔
      ∃ u, instant? w z = some u ∧ cs = (ofSeconds u w.civil.time.nano).utcMilliText := by
  cases found : instant? w z with
  | none =>
      simp [canonicalText, found]
  | some u =>
      simp [canonicalText, found, eq_comm]

/-- An instant of a fixed offset is that much before the local time. -/
theorem earliest?_fixed {l : Int} (h : (Zone.fixed offset).earliest? l = some u) : u + offset = l := by
  rw [Zone.earliest?, Option.filter_eq_some_iff] at h
  have shown : l - offset = u := Option.some.inj h.1
  omega

/-- The instant of a written time is the offset before it. -/
theorem instant?_of_countsBy (own : w.offset = last offset? ds) (known : resolveZone f.zone = .ok z)
    (counts : CountsBy f.zone ds offset) (found : instant? w z = some u) :
    u + offset = w.civil.seconds := by
  -- One case for each source of the offset. `instant?` looks into them in this order.
  cases counts with
  | own said =>
      rw [said] at own
      unfold instant? at found
      rw [own] at found
      exact earliest?_fixed found
  | @zone id _ unsaid given fixed =>
      rw [unsaid] at own
      rw [given] at known
      simp only [resolveZone, fixed, Except.ok.injEq] at known
      subst known
      unfold instant? at found
      rw [own] at found
      exact earliest?_fixed found
  | utc unsaid missing =>
      rw [unsaid] at own
      rw [missing] at known
      cases known
      unfold instant? at found
      rw [own] at found
      have shown : w.civil.seconds = u := Option.some.inj found
      omega

/-- A zone that makes no difference to what is written makes none to the text. -/
theorem convert_of_zone {p : DatePattern} (compiled : compile f.format = .ok p)
    (read : p.read text = .ok w) (known : KnownZone zone')
    (same : ∀ z', canonicalText f.kind w z' = .ok cs) :
    { f with zone := zone' }.convert text = .ok (String.ofList cs) := by
  obtain ⟨z', resolved⟩ := resolveZone_of_known known
  exact convert_eq_ok.2 ⟨p, w, z', cs, compiled, read, resolved, same z', rfl⟩

/-- A text that is converted spells a date and time under the pattern of the frame. A point in time comes
to the point in UTC that lies its offset before that, and its own offset counts whatever zone is given. A
date comes to the date that it spells, whatever offset and zone are given. -/
theorem exists_renders_of_convert (h : f.convert text = .ok s) :
    ∃ p ds c, Renders f text s p ds c := by
  rcases convert_eq_ok.1 h with ⟨p, w, z, cs, compiled, read, known, written, rfl⟩
  rcases exists_spelt_of_read read with ⟨ds, spelt, denotes, own⟩
  have valid := (read_spec compiled read).1
  refine ⟨p, ds, w.civil, ⟨compiled, spelt, denotes, valid, ?instant, ?ownOffset, ?date, ?anyZone⟩⟩
  case instant =>
    intro kind offset counts
    rw [kind] at written
    rcases canonicalText_dateTime_eq_ok.1 written with ⟨u, found, rfl⟩
    exact inUtc_utcMilliText valid (instant?_of_countsBy own known counts found)
  case ownOffset =>
    -- With an offset of its own the instant is found without the zone.
    intro kind said zone' resolves
    obtain ⟨offset, said⟩ := Option.isSome_iff_exists.1 said
    rw [said] at own
    refine convert_of_zone compiled read resolves fun z' => ?_
    have same : instant? w z' = instant? w z := by
      unfold instant?
      rw [own]
    rw [kind] at written ⊢
    rcases canonicalText_dateTime_eq_ok.1 written with ⟨u, found, rfl⟩
    exact canonicalText_dateTime_eq_ok.2 ⟨u, same.trans found, rfl⟩
  case date =>
    intro kind
    rw [kind] at written
    cases written
    rw [String.toList_ofList]
    exact Date.ofText?_text valid.1
  case anyZone =>
    intro kind zone' resolves
    rw [kind] at written
    cases written
    exact convert_of_zone compiled read resolves fun z' => by rw [kind]; rfl

end

open BuiltIn in
/-- The last hour of a leap day by a clock of twelve hours west of UTC. The zone says another offset,
which does not count. -/
theorem exists_renders_of_convert_leapDay :
    convert ⟨.dateTime, "d MMM yyyy haX", some "UTC-3"⟩ "29 feb 2020 11pm-05:30" =
        .ok "2020-03-01T04:30:00.000Z" ∧
      InUtc "2020-03-01T04:30:00.000Z" (-19800) ⟨⟨2020, 2, 29⟩, ⟨23, 0, 0, 0⟩⟩ := by
  have converted : convert ⟨.dateTime, "d MMM yyyy haX", some "UTC-3"⟩ "29 feb 2020 11pm-05:30" =
      .ok "2020-03-01T04:30:00.000Z" := by
    decide +kernel
  refine ⟨converted, ?_⟩
  rcases exists_renders_of_convert converted with ⟨p, ds, c, renders⟩
  have compiled : compile "d MMM yyyy haX" = .ok ⟨[.number .day 1 2, .literal [' '], .monthName,
      .literal [' '], .number .year 4 4, .literal [' '], .number .clockHour 1 2, .halfDay,
      .offset]⟩ := by
    decide +kernel
  obtain rfl := Except.ok.inj (compiled.symm.trans renders.pattern)
  have read : scanRest [] [.number .day 1 2, .literal [' '], .monthName, .literal [' '],
      .number .year 4 4, .literal [' '], .number .clockHour 1 2, .halfDay, .offset]
        "29 feb 2020 11pm-05:30".toList =
      .ok [.number .day 29, .nothing, .number .month 2, .nothing, .number .year 2020, .nothing,
        .number .clockHour 11, .afternoon true, .offset (-19800)] := by
    decide +kernel
  obtain rfl := renders.spells.unique (scanRest_eq_ok.1 read)
  -- The data say this date and time, and no other.
  have said : Denotes [.number .day 29, .nothing, .number .month 2, .nothing, .number .year 2020,
      .nothing, .number .clockHour 11, .afternoon true, .offset (-19800)]
        ⟨⟨2020, 2, 29⟩, ⟨23, 0, 0, 0⟩⟩ :=
    ⟨⟨2020, rfl, rfl⟩, rfl, rfl, .afternoon (by decide : 11 < 12), rfl, rfl, rfl⟩
  obtain rfl := renders.denotes.unique said
  exact renders.instant rfl (-19800) (.own rfl)

end TimeFrame
end RefFrame
