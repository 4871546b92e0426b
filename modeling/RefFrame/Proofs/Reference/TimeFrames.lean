import Mathlib.Data.List.DropRight
import RefFrame.Json.Exact
import RefFrame.Proofs.Fallible
import RefFrame.Proofs.Json.Reading
import RefFrame.Reference.TimeFrame

/-!
# Frames that are read from their own text

The frames that are read from references are those with a pattern that is not blank and a zone without
blanks around it (`TimeFrame.WellFormed`). Such a frame is read again from the text that it writes of
itself, whatever characters its pattern holds (`TimeFrame.reference_roundTrip`).
-/

namespace RefFrame

namespace Text

variable {cs : List Char}

theorem trimmed_eq (cs : List Char) : trimmed cs = (cs.dropWhile isBlank).rdropWhile isBlank := rfl

theorem dropWhile_trimmed (cs : List Char) : (trimmed cs).dropWhile isBlank = trimmed cs := by
  -- Trimming the end leaves the front, which has no blank, or nothing.
  have front : trimmed cs <+: cs.dropWhile isBlank := List.rdropWhile_prefix _ _
  cases kept : trimmed cs with
  | nil =>
      rfl
  | cons c ds =>
      rw [kept] at front
      rcases front with ⟨tail, same⟩
      have first := List.head?_dropWhile_not isBlank cs
      rw [← same] at first
      exact List.dropWhile_cons_of_neg (by simpa using first)

theorem trimmed_trimmed (cs : List Char) : trimmed (trimmed cs) = trimmed cs := by
  rw [trimmed_eq (trimmed cs), dropWhile_trimmed, trimmed_eq, List.rdropWhile_idempotent]

theorem trim_trim (s : String) : trim (trim s) = trim s := by
  rw [trim, trim, String.toList_ofList, trimmed_trimmed]

end Text

namespace TimeFrame

open Json Reference

variable {f : TimeFrame} {reference : Json} {ms : Members} {format : String} {zone : Option String}

/-! ## What it takes to read a frame -/

theorem formatOf_eq_ok :
    formatOf ms = .ok format ↔
      Reference.text? ms "format" = .ok (some format) ∧ Text.trimmed format.toList ≠ [] := by
  simp only [formatOf, bind_ok_iff]
  constructor
  · rintro ⟨_ | given, found, read⟩
    · cases read
    · by_cases blank : Text.trimmed given.toList = []
      · simp only [if_pos blank] at read
        cases read
      · simp only [if_neg blank] at read
        obtain rfl := pure_ok_iff.1 read
        exact ⟨found, blank⟩
  · rintro ⟨found, some_char⟩
    exact ⟨some format, found, if_neg some_char⟩

theorem zoneOf_eq_ok :
    zoneOf ms = .ok zone ↔ ∃ given, Reference.text? ms "timeZone" = .ok given ∧
      (given.map Text.trim).filter (· ≠ "") = zone := by
  simp only [zoneOf, bind_ok_iff]
  refine exists_congr fun given => and_congr_right fun _ => ?_
  cases given with
  | none =>
      simp [pure_ok_iff]
  | some z =>
      by_cases blank : Text.trim z = "" <;> simp [pure_ok_iff, blank, Option.filter]

section

variable [JsonLibrary]

theorem ofReference_eq_ok :
    ofReference reference = .ok f ↔ ∃ ms, members reference = .ok ms ∧
      (∃ k, Reference.kind ms = .ok k ∧ timeKind k = .ok f.kind) ∧
        formatOf ms = .ok f.format ∧ zoneOf ms = .ok f.zone := by
  rcases f with ⟨kind, format, zone⟩
  simp only [ofReference, bind_ok_iff, pure_ok_iff, TimeFrame.mk.injEq]
  constructor
  · rintro ⟨ms, found, k, code, kind, describes, format, pattern, zone, place, rfl, rfl, rfl⟩
    exact ⟨ms, found, ⟨k, code, describes⟩, pattern, place⟩
  · rintro ⟨ms, found, ⟨k, code, describes⟩, pattern, place⟩
    exact ⟨ms, found, k, code, kind, describes, format, pattern, zone, place, rfl, rfl, rfl⟩

/-! ## Frames that are read -/

/-- The pattern holds more than blanks, and the zone is not empty and has no blanks around it. -/
structure WellFormed (f : TimeFrame) : Prop where
  format : Text.trimmed f.format.toList ≠ []
  zone : ∀ z, f.zone = some z → z ≠ "" ∧ Text.trim z = z

theorem wellFormed_of_ofReference (h : ofReference reference = .ok f) : f.WellFormed := by
  rcases ofReference_eq_ok.1 h with ⟨ms, -, -, pattern, place⟩
  refine ⟨(formatOf_eq_ok.1 pattern).2, ?_⟩
  intro z some_zone
  rcases zoneOf_eq_ok.1 place with ⟨given, -, same⟩
  rw [some_zone, Option.filter_eq_some_iff, Option.map_eq_some_iff] at same
  rcases same with ⟨⟨z', -, rfl⟩, some_char⟩
  exact ⟨by simpa using some_char, Text.trim_trim z'⟩

/-- The text of a frame holds its pattern, its zone and its kind. -/
theorem exists_members (f : TimeFrame) :
    ∃ ms, members (.str f.reference) = .ok ms ∧ ms.get? "format" = some (.str f.format) ∧
      ms.get? "timeZone" = f.zone.map .str ∧ ms.get? "type" = some (.str f.kind.referenceKind.code) := by
  have legible : Legible nestingLimit f.object := by
    cases zone : f.zone <;> simp [object, zone, Legible, LegibleMembers, Members.keys, nestingLimit]
  have read : Json.read? f.reference = some f.object := readWithin?_compact legible
  have found : members (.str f.reference) = members f.object := by
    simp only [members, read]
    rfl
  cases zone : f.zone with
  | none =>
      have parts : f.object =
          .obj [("format", .str f.format), ("type", .str f.kind.referenceKind.code)] := by
        simp [object, zone]
      exact ⟨_, found.trans (congrArg members parts), rfl, rfl, rfl⟩
  | some z =>
      have parts : f.object = .obj [("format", .str f.format), ("timeZone", .str z),
          ("type", .str f.kind.referenceKind.code)] := by
        simp [object, zone]
      exact ⟨_, found.trans (congrArg members parts), rfl, rfl, rfl⟩

theorem ofReference_reference (h : f.WellFormed) : ofReference (.str f.reference) = .ok f := by
  rcases exists_members f with ⟨ms, found, format, zone, type⟩
  refine ofReference_eq_ok.2 ⟨ms, found, ⟨f.kind.referenceKind, ?_, ?_⟩, ?_, ?_⟩
  · simp only [Reference.kind, type]
    cases f.kind <;> rfl
  · cases f.kind <;> rfl
  · exact formatOf_eq_ok.2 ⟨by simp only [Reference.text?, format], h.format⟩
  · refine zoneOf_eq_ok.2 ⟨f.zone, ?_, ?_⟩
    · cases some_zone : f.zone <;> simp [Reference.text?, zone, some_zone]
    · cases some_zone : f.zone with
      | none =>
          rfl
      | some z =>
          rcases h.zone z some_zone with ⟨some_char, bare⟩
          simp [bare, some_char, Option.filter]

/-- What is read as a frame, an object or the text of one, is a frame that is read again from its own
text, and the text stays the same. These are the frames with a pattern that is not blank and a zone
without blanks around it. -/
theorem reference_roundTrip (f : TimeFrame) :
    ((∃ reference, ofReference reference = .ok f) ↔ f.WellFormed) ∧
      ∀ reference, ofReference reference = .ok f →
        ∃ again, ofReference (.str f.reference) = .ok again ∧ again = f ∧
          again.reference = f.reference := by
  refine ⟨⟨?_, ?_⟩, ?_⟩
  · rintro ⟨reference, read⟩
    exact wellFormed_of_ofReference read
  · intro h
    exact ⟨.str f.reference, ofReference_reference h⟩
  · intro reference read
    exact ⟨f, ofReference_reference (wellFormed_of_ofReference read), rfl, rfl⟩

end

/-- A frame whose pattern holds a quote, a backslash, a control character and a letter beyond ASCII. -/
def escapedFrame : TimeFrame := ⟨.dateTime, "d\"\\\x01é", some "Europe/Oslo"⟩

open BuiltIn in
theorem reference_roundTrip_escapedFrame :
    ofReference (.obj [("format", .str "d\"\\\x01é"), ("timeZone", .str " Europe/Oslo\n"),
        ("type", .str "DTM")]) = .ok escapedFrame ∧
      ofReference (.str escapedFrame.reference) = .ok escapedFrame := by
  have read : ofReference (.obj [("format", .str "d\"\\\x01é"), ("timeZone", .str " Europe/Oslo\n"),
      ("type", .str "DTM")]) = .ok escapedFrame := by
    decide
  rcases (reference_roundTrip escapedFrame).2 _ read with ⟨again, found, rfl, -⟩
  exact ⟨read, found⟩

end TimeFrame
end RefFrame
