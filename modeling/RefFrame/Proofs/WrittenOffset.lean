import RefFrame.Proofs.DatePattern.Language
import RefFrame.Proofs.Text.Utf8
import RefFrame.Proofs.UtcInstant
import RefFrame.Zone.Table

/-!
# An offset in the zone or behind the text

An offset with its sign can be given in two places: as the zone of a frame, or at the end of a text whose
pattern asks for one. Two readers are responsible for it. `TimeFrame.convert_offset_moved` says that they
agree, whatever the pattern: what is put behind a text does not change how the text is read, and the point
in time is the same one.
-/

namespace RefFrame

open Text Datum DatePattern

/-! ## As a zone -/

theorem Text.trimmed_eq_self {cs : List Char} (h : ∀ c ∈ cs, isBlank c = false) :
    trimmed cs = cs := by
  have front : cs.dropWhile isBlank = cs := by
    apply List.dropWhile_eq_self_iff.2
    intro nonempty
    simpa using h _ (List.getElem_mem nonempty)
  have back : cs.reverse.dropWhile isBlank = cs.reverse := by
    apply List.dropWhile_eq_self_iff.2
    intro nonempty
    simpa using h _ (List.mem_reverse.1 (List.getElem_mem nonempty))
  rw [trimmed, front, back, List.reverse_reverse]

theorem Text.isBlank_of_isDigit {c : Char} (h : c.isDigit = true) : isBlank c = false := by
  simp only [Char.isDigit, Bool.and_eq_true, decide_eq_true_eq] at h
  have low : '0'.toNat ≤ c.toNat := h.1
  have high : c.toNat ≤ '9'.toNat := h.2
  have zero : '0'.toNat = 48 := by decide
  have nine : '9'.toNat = 57 := by decide
  rw [zero] at low
  rw [nine] at high
  simp only [isBlank]
  grind

namespace DatePattern

variable {n m : Nat} {piece : List Char} {c : Char} {s : Int}

theorem Digits.ne_colon (h : Digits n m piece) : ':' ∉ piece := by
  intro mem
  have digit : ':'.isDigit = true := h.digits ':' mem
  exact absurd digit (by decide)

theorem Digits.byteLength_eq (h : Digits n m piece) : byteLength piece = n :=
  (byteLength_of_isDigit h.digits).trans h.length

theorem Digits.not_isBlank (h : Digits n m piece) : ∀ c ∈ piece, isBlank c = false :=
  fun c mem => isBlank_of_isDigit (h.digits c mem)

theorem SignedOffset.not_isBlank (h : SignedOffset s piece) : ∀ c ∈ piece, isBlank c = false := by
  cases h with
  | @intro sign n m hours minutes signed hours_digits minutes_text hours_le minutes_le =>
      have first : isBlank sign = false := by
        rcases signed with rfl | rfl <;> decide
      have last : ∀ c ∈ minutes, isBlank c = false := by
        cases minutes_text with
        | none =>
            simp
        | bare digits =>
            exact digits.not_isBlank
        | colon digits =>
            exact List.forall_mem_cons.2 ⟨by decide, digits.not_isBlank⟩
      exact List.forall_mem_cons.2 ⟨first, List.forall_mem_append.2 ⟨hours_digits.not_isBlank, last⟩⟩

/-- The size of an offset fits a day. -/
theorem SignedOffset.natAbs_le (h : SignedOffset s piece) : s.natAbs ≤ 86400 := by
  cases h with
  | intro signed hours minutes hours_le minutes_le =>
      split <;> omega

theorem SignedOffset.head_not_isDigit (h : SignedOffset s piece) :
    ∃ c ∈ piece.head?, c.isDigit = false := by
  cases h with
  | @intro sign n m hours minutes signed =>
      refine ⟨sign, rfl, ?_⟩
      rcases signed with rfl | rfl <;> decide

end DatePattern

namespace Zone

variable {n m : Nat} {piece hours minutes size : List Char} {s : Int}

theorem shortNumber?_of_digits (h : Digits 2 n piece) : shortNumber? piece = some n := by
  have some_digit : piece ≠ [] := h.ne_nil (by decide)
  have few : piece.length ≤ 2 := Nat.le_of_eq h.length
  have all : piece.all Char.isDigit = true := List.all_eq_true.2 h.digits
  rw [shortNumber?, if_pos ⟨some_digit, few, all⟩, digitsValue_eq, h.value]

theorem splitOffset?_colon (plain : ':' ∉ hours) :
    splitOffset? (hours ++ ':' :: minutes) = some (hours, minutes) := by
  have other : ∀ c ∈ hours, (!decide (c = ':')) = true := by
    intro c mem
    have ne : c ≠ ':' := fun same => plain (same ▸ mem)
    simp [ne]
  simp [splitOffset?, List.takeWhile_append_of_pos other, List.dropWhile_append_of_pos other]

theorem splitOffset?_middle (plain : ':' ∉ hours ++ minutes) (two : byteLength hours = 2)
    (two' : byteLength minutes = 2) : splitOffset? (hours ++ minutes) = some (hours, minutes) := by
  have four : byteLength (hours ++ minutes) = 4 := by rw [byteLength_append, two, two']
  rw [splitOffset?, if_neg plain, if_pos four, ← two]
  exact cutAt?_append hours minutes

theorem splitOffset?_whole (plain : ':' ∉ size) (other : byteLength size ≠ 4) :
    splitOffset? size = some (size, ['0']) := by
  rw [splitOffset?, if_neg plain, if_neg other]

theorem offsetSize?_eq_some (split : splitOffset? size = some (hours, minutes))
    (hours_number : shortNumber? hours = some n) (minutes_number : shortNumber? minutes = some m)
    (hours_le : n ≤ 18) (minutes_le : m ≤ 59) : offsetSize? size = some (n * 3600 + m * 60) := by
  simp [offsetSize?, split, hours_number, minutes_number, hours_le, minutes_le]

/-- The three forms of an offset are the three ways to split it. -/
theorem offsetSize?_of_digits (hours_digits : Digits 2 n hours) (minutes_text : MinutesText m minutes)
    (hours_le : n ≤ 18) (minutes_le : m ≤ 59) :
    offsetSize? (hours ++ minutes) = some (n * 3600 + m * 60) := by
  have two : byteLength hours = 2 := hours_digits.byteLength_eq
  have hours_number := shortNumber?_of_digits hours_digits
  cases minutes_text with
  | none =>
      rw [List.append_nil]
      have split := splitOffset?_whole hours_digits.ne_colon (by omega)
      exact offsetSize?_eq_some split hours_number rfl hours_le minutes_le
  | bare digits =>
      have plain : ':' ∉ hours ++ minutes := by simp [hours_digits.ne_colon, digits.ne_colon]
      exact offsetSize?_eq_some (splitOffset?_middle plain two digits.byteLength_eq) hours_number
        (shortNumber?_of_digits digits) hours_le minutes_le
  | colon digits =>
      exact offsetSize?_eq_some (splitOffset?_colon hours_digits.ne_colon) hours_number
        (shortNumber?_of_digits digits) hours_le minutes_le

/-- An offset is the identifier of the zone that has it. -/
theorem ofId?_signedOffset [ZoneLibrary] {id : String} (h : SignedOffset s id.toList) :
    ofId? id = some (.fixed s) := by
  rw [ofId?, trimmed_eq_self h.not_isBlank]
  generalize id.toList = cs at h
  cases h with
  | intro signed hours_digits minutes_text hours_le minutes_le =>
      have size := offsetSize?_of_digits hours_digits minutes_text hours_le minutes_le
      -- A sign begins no name of UTC, and it decides that what follows is read as an offset.
      rcases signed with rfl | rfl
      · simp [ofTrimmed?, ofTrimmedAmong?, utcNames, withoutUtc, sameLetters, lowered, size]
      · simp [ofTrimmed?, ofTrimmedAmong?, utcNames, withoutUtc, sameLetters, lowered, size]

end Zone

/-! ## Behind a text -/

namespace DatePattern

variable {n least greatest : Nat} {piece rest cs xs : List Char} {s : Int} {t : DateToken}
  {ts : List DateToken} {d : Datum} {ds : List Datum} {p : DatePattern} {w : WrittenTime}

/-- A number ends where it ended before if no digit is put behind the text. -/
theorem Numeral.append (h : Numeral least greatest n piece rest)
    (stops : ∃ c ∈ xs.head?, c.isDigit = false) : Numeral least greatest n piece (rest ++ xs) := by
  refine { h with ended := fun more c next => ?_ }
  cases rest with
  | nil =>
      rcases stops with ⟨c', first, stop⟩
      have same : c' = c := Option.some.inj (first.symm.trans next)
      exact same ▸ stop
  | cons c' rest =>
      exact h.ended more c next

theorem Spells.append (h : Spells t d piece rest) (other : t ≠ .offset)
    (stops : ∃ c ∈ xs.head?, c.isDigit = false) : Spells t d piece (rest ++ xs) := by
  cases h with
  | literal =>
      exact .literal
  | number numeral =>
      exact .number (numeral.append stops)
  | shortYear numeral =>
      exact .shortYear (numeral.append stops)
  | monthName name =>
      exact .monthName name
  | fraction numeral =>
      exact .fraction (numeral.append stops)
  | morning letters =>
      exact .morning letters
  | afternoon letters =>
      exact .afternoon letters
  | offset spelt =>
      exact absurd rfl other

/-- What a text says is not disturbed by an offset behind it. -/
theorem SpellsAll.append_offset (h : SpellsAll ts ds cs) (bare : DateToken.offset ∉ ts)
    (signed : SignedOffset s xs) :
    SpellsAll (ts ++ [.offset]) (ds ++ [.offset s]) (cs ++ xs) := by
  induction h with
  | nil =>
      have last : Spells .offset (.offset s) xs [] := .offset (signed.spells (by simp))
      simpa using SpellsAll.cons last .nil
  | cons spelt later ih =>
      rcases List.ne_and_not_mem_of_not_mem_cons bare with ⟨other, none_later⟩
      rw [List.append_assoc]
      exact .cons (spelt.append other.symm signed.head_not_isDigit) (ih none_later)

/-- Without an offset in the pattern a text says none. -/
theorem SpellsAll.last_offset? (h : SpellsAll ts ds cs) (bare : DateToken.offset ∉ ts) :
    last offset? ds = none := by
  have silent : ∀ d ∈ ds, offset? d = none := by
    induction h with
    | nil =>
        simp
    | cons spelt later ih =>
        rcases List.ne_and_not_mem_of_not_mem_cons bare with ⟨other, none_later⟩
        refine List.forall_mem_cons.2 ⟨?_, ih none_later⟩
        cases spelt with
        | offset spelt =>
            exact absurd rfl other
        | _ =>
            rfl
  rw [last, List.filterMap_eq_nil_iff.2 silent]
  rfl

/-- A text with an offset behind it is read as before, and has that offset. -/
theorem read_append_offset {text offset : String} (read : p.read text = .ok w)
    (bare : DateToken.offset ∉ p.tokens) (signed : SignedOffset s offset.toList) :
    w.offset = none ∧
      DatePattern.read ⟨p.tokens ++ [.offset]⟩ (text ++ offset) = .ok { w with offset := some s } := by
  simp only [DatePattern.read, bind_ok_iff] at read
  rcases read with ⟨c, scanned, ⟨⟩, checked, written⟩
  rcases scan_eq_ok.1 scanned with ⟨ds, spelt, rfl⟩
  have scanned' : scan ⟨p.tokens ++ [.offset]⟩ (text ++ offset) =
      .ok { Captured.ofData ds with offset := some s } := by
    refine scan_eq_ok.2 ⟨ds ++ [.offset s], ?_, ?_⟩
    · rw [String.toList_append]
      exact spelt.append_offset bare signed
    · simp [Captured.ofData, Captured.put]
  -- No check looks at the offset.
  have checked' : Captured.checkRanges { Captured.ofData ds with offset := some s } = .ok () := checked
  simp only [Captured.written, bind_ok_iff, pure_ok_iff] at written
  rcases written with ⟨date, date_read, hour, hour_read, rfl⟩
  have date_read' : Captured.date { Captured.ofData ds with offset := some s } = .ok date := date_read
  have hour_read' : Captured.hourOfDay { Captured.ofData ds with offset := some s } = .ok hour :=
    hour_read
  refine ⟨?_, ?_⟩
  · exact (Captured.offset_ofData ds).trans (spelt.last_offset? bare)
  · simp only [DatePattern.read, Captured.written, bind_ok_iff, pure_ok_iff]
    exact ⟨_, scanned', (), checked', date, date_read', hour, hour_read', rfl⟩

end DatePattern

/-! ## In either place -/

namespace TimeFrame

open CivilTime

variable {format text offset : String} {p : DatePattern} {w : WrittenTime} {s : Int}
  {zone : Option String}

/-- For a text whose pattern has no offset it makes no difference whether an offset is given as the zone or
put behind the text, with `XXX` behind the pattern and any zone. Either way the text comes to the point in
UTC that lies the offset before its date and time. -/
theorem convert_offset_moved [ZoneLibrary] (compiled : compile format = .ok p)
    (bare : DateToken.offset ∉ p.tokens) (read : p.read text = .ok w)
    (signed : SignedOffset s offset.toList) (known : KnownZone zone) :
    ∃ utc, convert ⟨.dateTime, format, some offset⟩ text = .ok utc ∧
      convert ⟨.dateTime, format ++ "XXX", zone⟩ (text ++ offset) = .ok utc ∧ InUtc utc s w.civil := by
  -- The offset of the one comes from its zone, as its text has none, and that of the other from its text.
  rcases read_append_offset read bare signed with ⟨unsaid, read'⟩
  rcases read_spec compiled read with ⟨valid, low, high⟩
  rcases resolveZone_of_known known with ⟨z, resolved⟩
  -- The calendar reaches the instant, since the year has four digits.
  have instant : (Zone.fixed s).earliest? w.civil.seconds = some (w.civil.seconds - s) := by
    have near : (w.civil.seconds - s - w.civil.seconds).natAbs ≤ 86400 := by
      have size := signed.natAbs_le
      omega
    simp [Zone.earliest?, inCalendar_of_near valid low high near]
  have by_zone : instant? w (some (.fixed s)) = some (w.civil.seconds - s) := by
    unfold instant?
    rw [unsaid]
    exact instant
  have by_text : instant? { w with offset := some s } z = some (w.civil.seconds - s) := instant
  have named : resolveZone (some offset) = .ok (some (.fixed s)) := by
    simp only [resolveZone, Zone.ofId?_signedOffset signed]
  have shown := inUtc_utcMilliText valid (Int.sub_add_cancel w.civil.seconds s)
  refine ⟨_, ?zone, ?text, shown⟩
  case zone =>
    exact convert_eq_ok.2 ⟨p, w, _, _, compiled, read, named,
      canonicalText_dateTime_eq_ok.2 ⟨_, by_zone, rfl⟩, rfl⟩
  case text =>
    exact convert_eq_ok.2 ⟨_, _, z, _, compile_append_offset compiled bare, read', resolved,
      canonicalText_dateTime_eq_ok.2 ⟨_, by_text, rfl⟩, rfl⟩

open BuiltIn in
/-- The last hour of a year by a clock five and a half hours west of UTC, under a pattern with numbers of
either one or two digits and with text in quotes, and with the name of a month right before the offset. -/
theorem convert_offset_moved_newYear :
    compile "yyyy d H'h 'MMM" = .ok ⟨[.number .year 4 4, .literal [' '], .number .day 1 2,
        .literal [' '], .number .hour 1 2, .literal ['h', ' '], .monthName]⟩ ∧
      convert ⟨.dateTime, "yyyy d H'h 'MMM", some "-0530"⟩ "2019 31 23h Dec" =
        .ok "2020-01-01T04:30:00.000Z" ∧
      convert ⟨.dateTime, "yyyy d H'h 'MMMXXX", some "UTC-3"⟩ "2019 31 23h Dec-0530" =
        .ok "2020-01-01T04:30:00.000Z" ∧
      InUtc "2020-01-01T04:30:00.000Z" (-19800) ⟨⟨2019, 12, 31⟩, ⟨23, 0, 0, 0⟩⟩ := by
  have compiled : compile "yyyy d H'h 'MMM" = .ok ⟨[.number .year 4 4, .literal [' '],
      .number .day 1 2, .literal [' '], .number .hour 1 2, .literal ['h', ' '], .monthName]⟩ := by
    decide +kernel
  have read : DatePattern.read ⟨[.number .year 4 4, .literal [' '], .number .day 1 2, .literal [' '],
      .number .hour 1 2, .literal ['h', ' '], .monthName]⟩ "2019 31 23h Dec" =
        .ok ⟨⟨2019, 12, 31⟩, some ⟨23, 0, 0, 0⟩, none⟩ := by
    decide +kernel
  have signed : SignedOffset (-19800) "-0530".toList := by
    have hours : Digits 2 5 ['0', '5'] := ⟨by simp, rfl, rfl⟩
    have minutes : Digits 2 30 ['3', '0'] := ⟨by simp, rfl, rfl⟩
    exact .intro (.inr rfl) hours (.bare minutes) (by decide) (by decide)
  have known : KnownZone (some "UTC-3") := by
    intro id given
    obtain rfl := Option.some.inj given
    decide +kernel
  rcases convert_offset_moved compiled (by decide) read signed known with ⟨utc, zoned, moved, shown⟩
  have converted : convert ⟨.dateTime, "yyyy d H'h 'MMM", some "-0530"⟩ "2019 31 23h Dec" =
      .ok "2020-01-01T04:30:00.000Z" := by
    decide +kernel
  obtain rfl := Except.ok.inj (zoned.symm.trans converted)
  exact ⟨compiled, zoned, moved, shown⟩

end TimeFrame
end RefFrame
