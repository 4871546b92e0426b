import Mathlib.Data.Nat.Cast.Basic
import RefFrame.Proofs.Reference.TimeFrames
import RefFrame.Proofs.WrittenOffset

/-!
# The grammar of zone identifiers

An identifier is a name of UTC, an offset, or the name of a place. Offsets may follow `UTC` or `GMT`, and
have more forms here than in texts (`OffsetId`): hours and minutes may be single digits if there is a
colon between them.

A sign tells offsets from names, so a place whose name looks like an offset is never found.
`Zone.resolve_exact` says what each identifier stands for, whatever the places are.
-/

namespace RefFrame

open Text DatePattern

namespace Text

/-- A text without the blanks around it. -/
structure Stripped (cs rest : List Char) : Prop where
  around : ∃ left right, cs = left ++ rest ++ right ∧ (∀ c ∈ left, isBlank c = true) ∧
    ∀ c ∈ right, isBlank c = true
  first : ∀ c ∈ rest.head?, isBlank c = false
  last : ∀ c ∈ rest.getLast?, isBlank c = false

theorem stripped_trimmed (cs : List Char) : Stripped cs (trimmed cs) where
  around := by
    refine ⟨cs.takeWhile isBlank, (cs.dropWhile isBlank).rtakeWhile isBlank, ?_, ?_, ?_⟩
    · rw [trimmed_eq, List.append_assoc, List.rdropWhile_append_rtakeWhile,
        List.takeWhile_append_dropWhile]
    · intro c mem
      exact List.mem_takeWhile_imp mem
    · intro c mem
      exact List.mem_rtakeWhile_imp mem
  first := by
    intro c first
    have kept := List.head?_dropWhile_not isBlank (trimmed cs)
    rw [dropWhile_trimmed, Option.mem_def.1 first] at kept
    simpa using kept
  last := by
    intro c last
    have some_char : trimmed cs ≠ [] := by
      intro none
      rw [none] at last
      cases last
    obtain rfl : (trimmed cs).getLast some_char = c :=
      Option.some.inj ((List.getLast?_eq_some_getLast some_char).symm.trans last)
    exact Bool.eq_false_iff.2 (List.rdropWhile_last_not isBlank _ some_char)

end Text

namespace Zone

variable {n m k : Nat} {cs id front hours minutes size piece : List Char} {sign : Char} {s : Int}
  {z : Zone} {name : String} {place : Timeline} {places : List (String × Timeline)}

/-! ## Written identifiers -/

/-- A name of UTC in letters of either case. -/
def IsUtcName (id : List Char) : Prop :=
  lowered id = "utc".toList ∨ lowered id = "gmt".toList ∨ lowered id = "z".toList ∨
    lowered id = "ut".toList

/-- What may stand in front of an offset. -/
def IsUtcPrefix (front : List Char) : Prop :=
  front = [] ∨ lowered front = "utc".toList ∨ lowered front = "gmt".toList

/-- A number in one digit or two. -/
def ShortNumber (n : Nat) (piece : List Char) : Prop :=
  Digits 1 n piece ∨ Digits 2 n piece

/-- Hours, and minutes if there are any. Without a colon both have two digits. -/
inductive SizeText : Nat → Nat → List Char → Prop
  | hours {n : Nat} {hours : List Char} :
      ShortNumber n hours → SizeText n 0 hours
  | colon {n m : Nat} {hours minutes : List Char} :
      ShortNumber n hours → ShortNumber m minutes → SizeText n m (hours ++ ':' :: minutes)
  | joined {n m : Nat} {hours minutes : List Char} :
      Digits 2 n hours → Digits 2 m minutes → SizeText n m (hours ++ minutes)

/-- An offset from UTC, at most eighteen hours and fifty-nine minutes, in seconds east. -/
inductive OffsetId : Int → List Char → Prop
  | intro {front size : List Char} {sign : Char} {n m : Nat} :
      IsUtcPrefix front → sign = '+' ∨ sign = '-' → SizeText n m size → n ≤ 18 → m ≤ 59 →
        OffsetId (if sign = '-' then -(n * 3600 + m * 60) else n * 3600 + m * 60)
          (front ++ sign :: size)

/-- A sign stands at the beginning or behind `UTC` or `GMT`. -/
inductive Signed : List Char → Prop
  | intro {front size : List Char} {sign : Char} :
      IsUtcPrefix front → sign = '+' ∨ sign = '-' → Signed (front ++ sign :: size)

/-! ## Sizes -/

theorem ShortNumber.length_le (h : ShortNumber n piece) : piece.length ≤ 2 := by
  rcases h with one | two
  · rw [one.length]
    decide
  · rw [two.length]

theorem ShortNumber.ne_colon (h : ShortNumber n piece) : ':' ∉ piece := by
  rcases h with one | two
  · exact one.ne_colon
  · exact two.ne_colon

theorem shortNumber?_eq_some : shortNumber? piece = some n ↔ ShortNumber n piece := by
  constructor
  · intro h
    simp only [shortNumber?, Option.ite_none_right_eq_some, List.all_eq_true, Option.some.injEq] at h
    rcases h with ⟨⟨some_digit, few, digits⟩, value⟩
    have positive : 0 < piece.length := List.length_pos_iff.2 some_digit
    have lengths : piece.length = 1 ∨ piece.length = 2 := by omega
    rcases lengths with one | two
    · exact .inl ⟨digits, one, value⟩
    · exact .inr ⟨digits, two, value⟩
  · rintro (one | two)
    · have some_digit : piece ≠ [] := one.ne_nil (by decide)
      have few : piece.length ≤ 2 := by
        rw [one.length]
        decide
      rw [shortNumber?, if_pos ⟨some_digit, few, List.all_eq_true.2 one.digits⟩, digitsValue_eq,
        one.value]
    · exact shortNumber?_of_digits two

theorem ShortNumber.byteLength_eq (h : ShortNumber n piece) : byteLength piece = piece.length := by
  rcases h with one | two
  · exact byteLength_of_isDigit one.digits
  · exact byteLength_of_isDigit two.digits

/-- Each form of a size is one way to split it. -/
theorem SizeText.exists_split (h : SizeText n m size) :
    ∃ hours minutes, splitOffset? size = some (hours, minutes) ∧ shortNumber? hours = some n ∧
      shortNumber? minutes = some m := by
  cases h with
  | hours short =>
      have few := short.length_le
      have other : byteLength size ≠ 4 := by
        rw [short.byteLength_eq]
        omega
      exact ⟨size, ['0'], splitOffset?_whole short.ne_colon other, shortNumber?_eq_some.2 short, rfl⟩
  | @colon _ hours minutes short short' =>
      exact ⟨hours, minutes, splitOffset?_colon short.ne_colon, shortNumber?_eq_some.2 short,
        shortNumber?_eq_some.2 short'⟩
  | @joined _ hours minutes two two' =>
      have plain : ':' ∉ hours ++ minutes := by simp [two.ne_colon, two'.ne_colon]
      exact ⟨hours, minutes, splitOffset?_middle plain two.byteLength_eq two'.byteLength_eq,
        shortNumber?_of_digits two, shortNumber?_of_digits two'⟩

theorem ShortNumber.digits_of_byteLength (h : ShortNumber n piece) (two : byteLength piece = 2) :
    Digits 2 n piece := by
  rcases h with one | full
  · exact absurd (one.byteLength_eq.symm.trans two) (by decide)
  · exact full

theorem sizeText_of_split (split : splitOffset? size = some (hours, minutes))
    (hours_read : shortNumber? hours = some n) (minutes_read : shortNumber? minutes = some m) :
    SizeText n m size := by
  have short := shortNumber?_eq_some.1 hours_read
  have short' := shortNumber?_eq_some.1 minutes_read
  unfold splitOffset? at split
  split at split
  · rename_i colon
    rcases Prod.mk.inj (Option.some.inj split) with ⟨rfl, rfl⟩
    -- What stands at the first colon is the colon itself.
    have parts := @List.takeWhile_append_dropWhile _ (· ≠ ':') size
    cases rest : size.dropWhile (· ≠ ':') with
    | nil =>
        have none := List.dropWhile_eq_nil_iff.1 rest ':' colon
        simp at none
    | cons c minutes =>
        have first := List.head?_dropWhile_not (· ≠ ':') size
        rw [rest] at first parts short'
        obtain rfl : c = ':' := by simpa using first
        rw [← parts]
        exact .colon short short'
  · split at split
    · rename_i four
      rcases cutAt?_eq_some.1 split with ⟨rfl, two⟩
      have two' : byteLength minutes = 2 := by
        rw [byteLength_append] at four
        omega
      exact .joined (short.digits_of_byteLength two) (short'.digits_of_byteLength two')
    · rcases Prod.mk.inj (Option.some.inj split) with ⟨rfl, rfl⟩
      cases minutes_read
      exact .hours short

theorem offsetSize?_eq_some_iff :
    offsetSize? size = some k ↔
      ∃ n m, SizeText n m size ∧ n ≤ 18 ∧ m ≤ 59 ∧ k = n * 3600 + m * 60 := by
  constructor
  · intro h
    simp only [offsetSize?, Option.bind_eq_bind, Option.bind_eq_some_iff,
      Option.ite_none_right_eq_some, Option.some.injEq] at h
    rcases h with ⟨⟨hours, minutes⟩, split, n, hours_read, m, minutes_read, ⟨hours_le, minutes_le⟩, rfl⟩
    exact ⟨n, m, sizeText_of_split split hours_read minutes_read, hours_le, minutes_le, rfl⟩
  · rintro ⟨n, m, written, hours_le, minutes_le, rfl⟩
    rcases written.exists_split with ⟨hours, minutes, split, hours_read, minutes_read⟩
    exact offsetSize?_eq_some split hours_read minutes_read hours_le minutes_le

/-! ## Names of UTC and signs -/

theorem sameLetters_iff {word : List Char} (small : lowered word = word) :
    sameLetters cs word = true ↔ lowered cs = word := by
  rw [sameLetters, beq_iff_eq, small]

theorem any_utcNames_iff : utcNames.any (sameLetters id) = true ↔ IsUtcName id := by
  have each : utcNames.any (sameLetters id) = (sameLetters id "utc".toList ||
      (sameLetters id "gmt".toList || (sameLetters id "z".toList ||
        (sameLetters id "ut".toList || false)))) := rfl
  simp only [each, Bool.or_eq_true, sameLetters_iff (rfl : lowered "utc".toList = _),
    sameLetters_iff (rfl : lowered "gmt".toList = _), sameLetters_iff (rfl : lowered "z".toList = _),
    sameLetters_iff (rfl : lowered "ut".toList = _), Bool.false_eq_true, or_false, IsUtcName]

theorem utcPrefix_iff :
    (sameLetters cs "utc".toList || sameLetters cs "gmt".toList) = true ↔
      lowered cs = "utc".toList ∨ lowered cs = "gmt".toList := by
  rw [Bool.or_eq_true, sameLetters_iff rfl, sameLetters_iff rfl]

theorem withoutUtc_append (front_utc : IsUtcPrefix front) (signed : sign = '+' ∨ sign = '-') :
    withoutUtc (front ++ sign :: size) = sign :: size := by
  rcases front_utc with rfl | utc
  · -- A sign is no letter.
    rcases signed with rfl | rfl <;> simp [withoutUtc, sameLetters, lowered]
  · have three : front.length = 3 := by
      rcases utc with letters | letters
      · simpa [lowered] using congrArg List.length letters
      · simpa [lowered] using congrArg List.length letters
    have taken : (front ++ sign :: size).take 3 = front := List.take_left' three
    have left : (front ++ sign :: size).drop 3 = sign :: size := List.drop_left' three
    rw [withoutUtc, taken, left, if_pos (utcPrefix_iff.2 utc)]

theorem exists_utcPrefix (id : List Char) :
    ∃ front, IsUtcPrefix front ∧ id = front ++ withoutUtc id := by
  by_cases utc : (sameLetters (id.take 3) "utc".toList || sameLetters (id.take 3) "gmt".toList) = true
  · exact ⟨id.take 3, .inr (utcPrefix_iff.1 utc), by rw [withoutUtc, if_pos utc, List.take_append_drop]⟩
  · exact ⟨[], .inl rfl, by rw [withoutUtc, if_neg utc, List.nil_append]⟩

/-- A sign has no case, and there is none in a name of UTC. -/
theorem IsUtcName.not_mem (h : IsUtcName id) (signed : sign = '+' ∨ sign = '-') : sign ∉ id := by
  intro mem
  have kept : sign.toLower = sign := by
    rcases signed with rfl | rfl <;> decide
  have lower : sign ∈ lowered id := List.mem_map.2 ⟨sign, mem, kept⟩
  rcases h with same | same | same | same <;> rw [same] at lower <;>
    rcases signed with rfl | rfl <;> simp at lower

theorem Signed.not_isUtcName (h : Signed id) : ¬ IsUtcName id := by
  rcases h with ⟨-, signed⟩
  intro utc
  exact utc.not_mem signed (by simp)

/-- An identifier with a sign is an offset in one way only. -/
theorem offsetId_append_iff (front_utc : IsUtcPrefix front) (signed : sign = '+' ∨ sign = '-') :
    OffsetId s (front ++ sign :: size) ↔
      ∃ k : Nat, offsetSize? size = some k ∧ s = if sign = '-' then -(k : Int) else k := by
  constructor
  · intro h
    generalize whole : front ++ sign :: size = id at h
    cases h with
    | @intro front' size' sign' n m front_utc' signed' written hours_le minutes_le =>
        have rest := congrArg withoutUtc whole
        rw [withoutUtc_append front_utc signed, withoutUtc_append front_utc' signed'] at rest
        rcases List.cons.inj rest with ⟨rfl, rfl⟩
        refine ⟨n * 3600 + m * 60, ?_, by push_cast; rfl⟩
        exact offsetSize?_eq_some_iff.2 ⟨n, m, written, hours_le, minutes_le, rfl⟩
  · rintro ⟨k, read, rfl⟩
    rcases offsetSize?_eq_some_iff.1 read with ⟨n, m, written, hours_le, minutes_le, rfl⟩
    have offset := OffsetId.intro front_utc signed written hours_le minutes_le
    push_cast
    exact offset

theorem OffsetId.signed (h : OffsetId s id) : Signed id := by
  cases h with
  | intro front_utc sign =>
      exact .intro front_utc sign

/-! ## Resolving -/

theorem ofTrimmedAmong?_of_isUtcName (h : IsUtcName id) :
    ofTrimmedAmong? places id = some (.fixed 0) := by
  rw [ofTrimmedAmong?, if_pos (any_utcNames_iff.2 h)]

theorem ofTrimmedAmong?_of_sign (front_utc : IsUtcPrefix front) (signed : sign = '+' ∨ sign = '-') :
    ofTrimmedAmong? places (front ++ sign :: size) =
      (offsetSize? size).map fun k => .fixed (if sign = '-' then -k else k) := by
  have noName : ¬ utcNames.any (sameLetters (front ++ sign :: size)) = true := by
    rw [any_utcNames_iff]
    exact (Signed.intro front_utc signed).not_isUtcName
  rw [ofTrimmedAmong?, if_neg noName, withoutUtc_append front_utc signed]
  rcases signed with rfl | rfl
  · cases found : offsetSize? size <;> simp [found]
  · cases found : offsetSize? size <;> simp [found]

theorem ofTrimmedAmong?_of_unsigned (noName : ¬ IsUtcName id) (unsigned : ¬ Signed id) :
    ofTrimmedAmong? places id =
      (places.lookup (String.ofList id)).map (.named (String.ofList id)) := by
  rw [← any_utcNames_iff] at noName
  rw [ofTrimmedAmong?, if_neg noName]
  rcases exists_utcPrefix id with ⟨front, front_utc, parts⟩
  split
  · rename_i size rest
    rw [parts, rest] at unsigned
    exact absurd (.intro front_utc (.inl rfl)) unsigned
  · rename_i size rest
    rw [parts, rest] at unsigned
    exact absurd (.intro front_utc (.inr rfl)) unsigned
  · rfl

/-- What is torn is no zone. -/
theorem ofTrimmedAmong?_of_isTorn (torn : isTorn id = true) : ofTrimmedAmong? places id = none := by
  rcases exists_utcPrefix id with ⟨front, front_utc, parts⟩
  have unsplit {sign : Char} {size : List Char} (signed : sign = '+' ∨ sign = '-')
      (rest : withoutUtc id = sign :: size) (none : (splitOffset? size).isNone = true) :
      ofTrimmedAmong? places id = .none := by
    have unread : offsetSize? size = .none := by
      simp [offsetSize?, Option.isNone_iff_eq_none.1 none]
    rw [parts, rest, ofTrimmedAmong?_of_sign front_utc signed, unread, Option.map_none]
  unfold isTorn at torn
  split at torn
  · exact unsplit (.inl rfl) ‹_› torn
  · exact unsplit (.inr rfl) ‹_› torn
  · cases torn

/-- The zone of an identifier, with the given places, or the fault that quotes it without the blanks around
it. -/
def resolve (places : List (String × Timeline)) (id : String) : Except DateFault Zone :=
  match ofTrimmedAmong? places (trimmed id.toList) with
  | some z => .ok z
  | none => .error (.unknownZone (trim id))

/-- The zone of a frame is resolved with the places of the library. -/
theorem resolveZone_some [ZoneLibrary] (id : String) :
    TimeFrame.resolveZone (some id) = (resolve ZoneLibrary.places id).map some := by
  simp only [TimeFrame.resolveZone, resolve, ofId?, ofTrimmed?]
  cases ofTrimmedAmong? ZoneLibrary.places (trimmed id.toList) <;> rfl

theorem resolve_eq_ok {id : String} :
    resolve places id = .ok z ↔ ofTrimmedAmong? places (trimmed id.toList) = some z := by
  unfold resolve
  cases ofTrimmedAmong? places (trimmed id.toList) <;> simp

theorem resolve_eq_error {id : String} {fault : DateFault} :
    resolve places id = .error fault ↔
      fault = .unknownZone (trim id) ∧ ofTrimmedAmong? places (trimmed id.toList) = none := by
  unfold resolve
  cases ofTrimmedAmong? places (trimmed id.toList) <;> simp [eq_comm]

theorem ofTrimmedAmong?_eq_fixed :
    ofTrimmedAmong? places id = some (.fixed s) ↔ IsUtcName id ∧ s = 0 ∨ OffsetId s id := by
  by_cases utc : IsUtcName id
  · have noOffset : ¬ OffsetId s id := fun offset => offset.signed.not_isUtcName utc
    rw [ofTrimmedAmong?_of_isUtcName utc]
    simp [utc, noOffset, eq_comm]
  · by_cases sign_follows : Signed id
    · rcases sign_follows with ⟨front_utc, signed⟩
      rw [ofTrimmedAmong?_of_sign front_utc signed, offsetId_append_iff front_utc signed]
      simp only [Option.map_eq_some_iff, fixed.injEq, utc, false_and, false_or]
      exact exists_congr fun k => and_congr_right fun _ => eq_comm
    · have noOffset : ¬ OffsetId s id := fun offset => sign_follows offset.signed
      rw [ofTrimmedAmong?_of_unsigned utc sign_follows]
      simp [utc, noOffset]

theorem ofTrimmedAmong?_eq_named :
    ofTrimmedAmong? places id = some (.named name place) ↔
      ¬ IsUtcName id ∧ ¬ Signed id ∧ name.toList = id ∧ places.lookup name = some place := by
  by_cases utc : IsUtcName id
  · rw [ofTrimmedAmong?_of_isUtcName utc]
    simp [utc]
  · by_cases sign_follows : Signed id
    · have signs := sign_follows
      rcases signs with ⟨front_utc, signed⟩
      rw [ofTrimmedAmong?_of_sign front_utc signed]
      simp [sign_follows]
    · rw [ofTrimmedAmong?_of_unsigned utc sign_follows]
      simp only [Option.map_eq_some_iff, Zone.named.injEq, utc, sign_follows, not_false_eq_true, true_and]
      constructor
      · rintro ⟨place', found, rfl, rfl⟩
        exact ⟨String.toList_ofList, found⟩
      · rintro ⟨rfl, found⟩
        rw [String.ofList_toList]
        exact ⟨place, found, rfl, rfl⟩

theorem lookup_eq_none_iff : places.lookup name = none ↔ ∀ place, (name, place) ∉ places := by
  rw [List.lookup_eq_none_iff]
  constructor
  · intro other place mem
    simpa using other _ mem
  · rintro nowhere ⟨name', place⟩ mem
    have ne : name ≠ name' := fun same => nowhere place (same ▸ mem)
    simpa using ne

theorem ofTrimmedAmong?_eq_none :
    ofTrimmedAmong? places id = none ↔ ¬ IsUtcName id ∧ (∀ s, ¬ OffsetId s id) ∧
      (Signed id ∨ ∀ place, (String.ofList id, place) ∉ places) := by
  by_cases utc : IsUtcName id
  · rw [ofTrimmedAmong?_of_isUtcName utc]
    simp [utc]
  · by_cases sign_follows : Signed id
    · have signs := sign_follows
      rcases signs with ⟨front_utc, signed⟩
      rw [ofTrimmedAmong?_of_sign front_utc signed]
      simp only [offsetId_append_iff front_utc signed, utc, sign_follows, Option.map_eq_none_iff]
      cases offsetSize? _ <;> simp
    · have noOffset : ∀ s, ¬ OffsetId s id := fun s offset => sign_follows offset.signed
      rw [ofTrimmedAmong?_of_unsigned utc sign_follows, Option.map_eq_none_iff, lookup_eq_none_iff]
      simp [utc, noOffset, sign_follows]

/-- What an identifier stands for once the blanks around it are gone. It is a fixed zone if it is a name of
UTC or an offset, and a named one if it is the name of a place, letter by letter, and no sign stands where
an offset has its own. All other identifiers are unknown, and the fault quotes them. -/
theorem resolve_exact [ZoneLibrary] (places : List (String × Timeline)) (id : String) :
    ∃ rest, Stripped id.toList rest ∧
      (∀ s, resolve places id = .ok (.fixed s) ↔ IsUtcName rest ∧ s = 0 ∨ OffsetId s rest) ∧
      (∀ name place, resolve places id = .ok (.named name place) ↔
        ¬ IsUtcName rest ∧ ¬ Signed rest ∧ name.toList = rest ∧ places.lookup name = some place) ∧
      (∀ fault, resolve places id = .error fault ↔
        fault = .unknownZone (String.ofList rest) ∧ ¬ IsUtcName rest ∧ (∀ s, ¬ OffsetId s rest) ∧
          (Signed rest ∨ ∀ place, (String.ofList rest, place) ∉ places)) ∧
      TimeFrame.resolveZone (some id) = (resolve ZoneLibrary.places id).map some := by
  refine ⟨trimmed id.toList, stripped_trimmed _, ?fixed, ?named, ?unknown, resolveZone_some id⟩
  case fixed =>
    intro s
    rw [resolve_eq_ok, ofTrimmedAmong?_eq_fixed]
  case named =>
    intro name place
    rw [resolve_eq_ok, ofTrimmedAmong?_eq_named]
  case unknown =>
    intro fault
    rw [resolve_eq_error, ofTrimmedAmong?_eq_none]
    rfl

/-- A place whose name looks like an offset is not found. -/
example : resolve [("GMT+0", .constant 3600)] " GMT+0\n" = .ok (.fixed 0) := by
  decide +kernel

/-- The sign of this name does not stand behind `GMT` alone. -/
example : resolve [("Etc/GMT+5", .constant (-18000))] "Etc/GMT+5" =
    .ok (.named "Etc/GMT+5" (.constant (-18000))) := by
  decide +kernel

end Zone
end RefFrame
