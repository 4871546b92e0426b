import RefFrame.Proofs.Record.DateTurn
import RefFrame.Proofs.Record.Refusal
import RefFrame.Proofs.Timestamp
import RefFrame.Proofs.Zone.Lookup

/-!
# Local times in records

A point in time that names no offset of its own is a local time of the zone of its entry. If the clock of
the zone jumps over it, there is no instant that it could stand for: it cannot be converted, and the
record keeps it as it is written, with a message. `Zone.earliest?_named` says so, and which instant it
stands for otherwise.
-/

namespace RefFrame

open Json Location

namespace TimeFrame

variable [ZoneLibrary] {f : TimeFrame} {text name : String} {p : DatePattern} {w : WrittenTime}
  {z : Timeline}

/-- A local time that its zone never shows cannot be converted. -/
theorem convert_of_not_shown (kind : f.kind = .dateTime)
    (compiled : DatePattern.compile f.format = .ok p) (read : p.read text = .ok w)
    (local_time : w.offset = none) (zone : resolveZone f.zone = .ok (some (.named name z)))
    (missed : (Zone.named name z).earliest? w.civil.seconds = none) :
    f.convert text = .error (.skipped (String.ofList w.civil.plainText)) := by
  have skipped : instant? w (some (.named name z)) = none := by
    unfold instant?
    rw [local_time]
    exact missed
  have unwritten : canonicalText f.kind w (some (.named name z)) =
      .error (.skipped (String.ofList w.civil.plainText)) := by
    simp only [canonicalText, kind, skipped]
  exact convert_eq_error.2
    (Or.inr ⟨p, compiled, Or.inr ⟨w, read, Or.inr ⟨_, zone, unwritten⟩⟩⟩)

/-- A text that cannot be converted is refused under each name. -/
theorem judge_of_convert_error {fault : DateFault} (h : f.convert text = .error fault)
    (name : String) :
    (Conversion.ofTime f).judge name (.str text) = .refuse (f.issue name text fault) := by
  simp only [Conversion.ofTime, h]

/-- Where the zone is known nothing is torn. -/
theorem calm_ofTime {zone : Option Zone} (known : resolveZone f.zone = .ok zone) :
    (Conversion.ofTime f).Calm := by
  intro name v i refused
  refine Bool.eq_false_iff.2 fun panics => ?_
  have said : (Conversion.ofTime f).issue? ⟨name, some ⟨[], v⟩⟩ = some i := by
    simp [Conversion.issue?, Conversion.verdict, refused]
  rcases (Conversion.panics_iff f _).1 ⟨i, said, panics⟩ with ⟨-, -, -, given, torn⟩
  have unknown : Zone.ofId? _ = none := Zone.ofTrimmedAmong?_of_isTorn torn
  simp [resolveZone, given, unknown] at known

end TimeFrame

theorem Zone.mem_places_of_ofId? [ZoneLibrary] {id name : String} {z : Timeline}
    (h : ofId? id = some (.named name z)) : (name, z) ∈ ZoneLibrary.places := by
  rcases ofTrimmedAmong?_eq_named.1 h with ⟨-, -, -, listed⟩
  rcases List.lookup_eq_some_iff.1 listed with ⟨before, after, places, -⟩
  rw [places]
  simp

/-- The named zones are places of the library. Let the library be sound: its places have changes that lie far
enough apart, and it answers by what the changes do to a clock. Then a local time in a year of four digits
stands for the first of the instants at which the clock of the place shows it. If there are none, the clock
jumps over it, and only then.

A text with such a time cannot be converted under a frame with the zone: after the turn of an entry with the
frame the text stands where it stood, and each name of the entry that leads to it has the generic issue
added. -/
theorem Zone.earliest?_named [JsonLibrary] [ZoneLibrary] (sound : ZoneLibrary.Sound) :
    (∀ id name z, ofId? id = some (.named name z) → (name, z) ∈ ZoneLibrary.places) ∧
      ∀ (name : String) (z : Timeline) (c : CivilTime), (name, z) ∈ ZoneLibrary.places → c.IsValid →
        0 ≤ c.date.year → c.date.year ≤ 9999 →
          (∀ u, (named name z).earliest? c.seconds = some u ↔ IsLeast {v | z.Shows v c.seconds} u) ∧
          ((named name z).earliest? c.seconds = none ↔ ∀ v, ¬ z.Shows v c.seconds) ∧
          (z.Skips c.seconds ↔ ∀ v, ¬ z.Shows v c.seconds) ∧
          ∀ (f : TimeFrame) (text : String) (p : DatePattern) (w : WrittenTime), f.kind = .dateTime →
            DatePattern.compile f.format = .ok p → p.read text = .ok w → w.civil = c →
              w.offset = none → TimeFrame.resolveZone f.zone = .ok (some (named name z)) →
                (∀ v, ¬ z.Shows v c.seconds) →
                  f.convert? text = some (.error (.skipped (String.ofList c.plainText))) ∧
                  ∀ r e here d names l, Record.Reaches .dateTime r e here → e.WrittenUnder names f →
                    here.tree.dataBlock? = some d → d.get? l = some (.str text) →
                      ∃ after, Record.turn? .dateTime here e = some after ∧
                        after.tree.get? (.key "data" :: l) = some (.str text) ∧
                          ∀ name ∈ names, l ∈ d.locationsOf name →
                            (Issue.unreadable text name ("local time " ++ String.ofList c.plainText ++
                              " does not exist in time zone")).message ∈ after.messages := by
  refine ⟨fun id name z => mem_places_of_ofId?, ?_⟩
  intro name z c listed valid low high
  have regular := sound.regular name z listed
  have answers := sound.answers name z listed c valid low high
  refine ⟨fun u => answers.earliest?_eq_some_iff regular, answers.earliest?_eq_none_iff regular,
    Timeline.skips_iff regular, ?_⟩
  rintro f text p w kind compiled read rfl local_time zone none_shown
  have missed := (answers.earliest?_eq_none_iff regular).2 none_shown
  have failed := TimeFrame.convert_of_not_shown kind compiled read local_time zone missed
  refine ⟨by simp [TimeFrame.convert?, failed, DateFault.panics], ?_⟩
  intro r e here d names l reached written data there
  have planned : Pass.dateTime.plan e = .ok (names, .ofTime f) :=
    Pass.plan_dateTime_eq_ok.2 ⟨f, written, rfl⟩
  have verdict := TimeFrame.judge_of_convert_error failed
  refine ⟨_, Record.turn?_of_calm planned (TimeFrame.calm_ofTime zone), ?_⟩
  rcases Record.refused_of_visits reached.visits planned data (v := .str text) rfl there
    (fun name => ⟨_, verdict name⟩) with ⟨stays, reported⟩
  exact ⟨stays, fun name mem addressed => reported name mem addressed _ (verdict name)⟩

/-- The entry of a log that is kept in local time. -/
def logEntry : Json :=
  .obj [("kind", .str "dateTime"), ("propertyNames", .arr [.str "Log"]),
    ("persistableReference", .obj [("type", .str "DTM"), ("format", .str "yyyy-MM-dd HH:mm"),
      ("timeZone", .str "America/Chicago")])]

/-- A log with a time in the hour that is left out in spring. -/
def springLog : Json :=
  .obj [("data", .obj [("Log", .str "2019-03-10 02:30")]), ("meta", .arr [logEntry])]

open BuiltIn in
/-- Half past one in the hour that comes twice in autumn is the earlier one, an hour before the later.
Half past two on the day in spring is left out, and stays in its record. -/
theorem Zone.earliest?_named_chicago :
    IsLeast {v | Timeline.chicago.Shows v
        (CivilTime.seconds ⟨⟨2019, 11, 3⟩, ⟨1, 30, 0, 0⟩⟩)} 1572762600 ∧
      Timeline.chicago.Shows 1572766200 (CivilTime.seconds ⟨⟨2019, 11, 3⟩, ⟨1, 30, 0, 0⟩⟩) ∧
        Timeline.chicago.Skips (CivilTime.seconds ⟨⟨2019, 3, 10⟩, ⟨2, 30, 0, 0⟩⟩) ∧
          ∃ here after, Record.Reaches .dateTime (.fresh springLog) (.ofJson 0 logEntry) here ∧
            Record.turn? .dateTime here (.ofJson 0 logEntry) = some after ∧
            after.tree.get? [.key "data", .key "Log"] = some (.str "2019-03-10 02:30") ∧
              (Issue.unreadable "2019-03-10 02:30" "Log"
                "local time 2019-03-10 02:30:00 does not exist in time zone").message ∈
                  after.messages := by
  have zone : ofId? "America/Chicago" = some (.named "America/Chicago" .chicago) := by
    decide +kernel
  rcases earliest?_named sound_zones with ⟨places, local_times⟩
  have listed := places _ _ _ zone
  rcases local_times "America/Chicago" .chicago ⟨⟨2019, 11, 3⟩, ⟨1, 30, 0, 0⟩⟩ listed
    ⟨by decide, by decide⟩ (by decide) (by decide) with ⟨autumn, -, -, -⟩
  rcases local_times "America/Chicago" .chicago ⟨⟨2019, 3, 10⟩, ⟨2, 30, 0, 0⟩⟩ listed
    ⟨by decide, by decide⟩ (by decide) (by decide) with ⟨-, spring, skips, failing⟩
  have missed := spring.1 (by decide +kernel)
  have reached : Record.Reaches .dateTime (.fresh springLog) (.ofJson 0 logEntry)
      (Record.fresh springLog).markProcessed := ⟨_, [], [], rfl, rfl, rfl, rfl⟩
  have compiled : DatePattern.compile "yyyy-MM-dd HH:mm" = .ok ⟨[.number .year 4 4, .literal ['-'],
      .number .month 2 2, .literal ['-'], .number .day 2 2, .literal [' '], .number .hour 2 2,
      .literal [':'], .number .minute 2 2]⟩ := by
    decide +kernel
  have known : TimeFrame.resolveZone (some "America/Chicago") =
      .ok (some (.named "America/Chicago" .chicago)) := by
    simp only [TimeFrame.resolveZone, zone]
  rcases failing ⟨.dateTime, "yyyy-MM-dd HH:mm", some "America/Chicago"⟩ "2019-03-10 02:30" _
    ⟨⟨2019, 3, 10⟩, some ⟨2, 30, 0, 0⟩, none⟩ rfl compiled rfl rfl rfl known missed with
    ⟨-, record⟩
  rcases record _ _ _ _ ["Log"] [.key "Log"] reached ⟨rfl, _, rfl, rfl⟩ rfl rfl with
    ⟨after, ended, stays, reported⟩
  refine ⟨(autumn _).1 (by decide +kernel), by decide +kernel, skips.2 missed, _, after, reached, ended,
    stays, ?_⟩
  exact reported "Log" List.mem_cons_self (by decide +kernel)

end RefFrame
