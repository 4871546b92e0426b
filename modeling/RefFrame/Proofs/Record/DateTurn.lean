import RefFrame.Json.Exact
import RefFrame.Proofs.DatePattern.Shape
import RefFrame.Proofs.Record.Panics
import RefFrame.Proofs.Zone.Identifier
import RefFrame.Zone.Table

/-!
# The turn of an entry under a date format

An entry that gives dates is worked off to its end, whatever becomes of a single item: a text that can
be read is rewritten, and each of the other items is left as it is with one issue, which says what is
wrong with it (`TimeFrame.Complains`). `Record.turn_of_date_entry` says so, for the items of the data
before the entry. There is one thing that ends the entry, and with it everything: a text that can be read
while the zone is torn (`TimeFrame.PanicsAt`).
-/

namespace RefFrame

open Json Location

/-- The entry says that the properties with the names are written under the frame. -/
def MetaEntry.WrittenUnder [JsonLibrary] (e : MetaEntry) (names : List String) (f : TimeFrame) : Prop :=
  e.names = .ok names ∧
    ∃ reference, e.reference = .ok reference ∧ TimeFrame.ofReference reference = .ok f

theorem Pass.plan_dateTime_eq_ok [JsonLibrary] [ZoneLibrary] {e : MetaEntry} {names : List String}
    {c : Conversion} :
    dateTime.plan e = .ok (names, c) ↔ ∃ f, e.WrittenUnder names f ∧ c = .ofTime f := by
  simp only [plan_eq_ok, conversion_dateTime_eq_ok, MetaEntry.WrittenUnder,
    MetaEntry.reference_eq_ok]
  constructor
  · rintro ⟨written, reference, there, f, read, rfl⟩
    exact ⟨f, ⟨written, reference, there, read⟩, rfl⟩
  · rintro ⟨f, ⟨written, reference, there, read⟩, rfl⟩
    exact ⟨written, reference, there, f, read, rfl⟩

/-! ## What reading can say -/

namespace DatePattern

variable {p : DatePattern} {text rest : List Char} {ts : List DateToken} {s : String}
  {fault : DateFault}

/-- The faults of a text: a number out of range, a shape that does not fit, or parts that make no date
and time. -/
inductive TextFault : DateFault → Prop
  | range (fault : RangeFault) : TextFault (.range fault)
  | shape (text : String) (index : Nat) : TextFault (.shape text index)
  | parts (fault : PartsFault) : TextFault (.parts fault)

theorem textFault_misfit (misfit : Misfit) : TextFault (misfit.fault text rest) := by
  cases misfit with
  | shape =>
      exact .shape _ _
  | range fault =>
      exact .range fault

theorem textFault_scanRest (h : scanRest text ts rest = .error fault) : TextFault fault := by
  induction ts generalizing rest with
  | nil =>
      cases rest with
      | nil =>
          cases h
      | cons c cs =>
          obtain rfl := Except.error.inj h
          exact textFault_misfit .shape
  | cons t ts ih =>
      rcases scanRest_cons_eq_error.1 h with ⟨misfit, -, rfl⟩ | ⟨d, rest', -, later⟩
      · exact textFault_misfit misfit
      · exact ih later

/-- What can go wrong with a text that a pattern is to read. -/
theorem textFault_read (h : p.read s = .error fault) : TextFault fault := by
  rcases fault_of_read h with scanned | ⟨-, values⟩
  · exact textFault_scanRest (scan_eq_error.1 scanned)
  · cases values with
    | range fault =>
        exact .range fault
    | parts fault =>
        exact .parts fault

end DatePattern

/-! ## What is said about an item -/

namespace TimeFrame

open DatePattern

variable {f : TimeFrame} {i : Item} {is : List Item} {l : Location} {text : String}
  {fault : DateFault} {issue : Issue}

/-- The canonical text that an item comes to under a frame, with its place. -/
def rewritten? [ZoneLibrary] (f : TimeFrame) (i : Item) : Option (Location × Json) :=
  match i.found with
  | some ⟨l, .str text⟩ =>
    match f.convert text with
    | .ok s => some (l, .str s)
    | .error _ => none
  | _ => none

/-- What is said about an item that is not rewritten, by what is wrong with it. The first thing that is
wrong decides: whether it is there and a text, the pattern, the text, the zone, the instant. -/
inductive Complains [ZoneLibrary] (f : TimeFrame) (i : Item) : Issue → Prop
  | missing (missing : i.isMissing = true) : Complains f i (.missingProperty .dateTime i.name)
  | noText {m : Match} (found : i.found = some m) (present : m.value.isNull = false)
      (noText : m.value.text? = none) : Complains f i (.mismatch m.value.compact i.name f.format)
  | pattern {l : Location} {text : String} {fault : PatternFault}
      (found : i.found = some ⟨l, .str text⟩) (pattern : compile f.format = .error fault) :
      Complains f i (.invalidFormat f.format fault)
  | range {l : Location} {text : String} {p : DatePattern} {fault : RangeFault}
      (found : i.found = some ⟨l, .str text⟩) (compiled : compile f.format = .ok p)
      (range : p.read text = .error (.range fault)) : Complains f i (.outOfRange text i.name fault)
  | shape {l : Location} {text whole : String} {p : DatePattern} {index : Nat}
      (found : i.found = some ⟨l, .str text⟩) (compiled : compile f.format = .ok p)
      (shape : p.read text = .error (.shape whole index)) :
      Complains f i (.mismatch text i.name f.format)
  | parts {l : Location} {text : String} {p : DatePattern} {fault : PartsFault}
      (found : i.found = some ⟨l, .str text⟩) (compiled : compile f.format = .ok p)
      (parts : p.read text = .error (.parts fault)) :
      Complains f i (.unreadable text i.name fault.message)
  | zone {l : Location} {text id : String} {p : DatePattern} {w : WrittenTime}
      (found : i.found = some ⟨l, .str text⟩) (compiled : compile f.format = .ok p)
      (read : p.read text = .ok w) (zone : f.zone = some id) (unknown : Zone.ofId? id = none) :
      Complains f i (.unknownZone (Text.trim id) i.name)
  | skipped {l : Location} {text : String} {p : DatePattern} {w : WrittenTime} {zone : Option Zone}
      (found : i.found = some ⟨l, .str text⟩) (compiled : compile f.format = .ok p)
      (read : p.read text = .ok w) (known : resolveZone f.zone = .ok zone)
      (kind : f.kind = .dateTime) (skipped : instant? w zone = none) :
      Complains f i (.unreadable text i.name
        ("local time " ++ String.ofList w.civil.plainText ++ " does not exist in time zone"))

/-- An item is never complained about if that takes a zone that is torn: a text that the pattern reads,
under such a zone. -/
inductive PanicsAt (f : TimeFrame) (i : Item) : Prop
  | torn {l : Location} {text id : String} {p : DatePattern} {w : WrittenTime}
      (found : i.found = some ⟨l, .str text⟩) (compiled : compile f.format = .ok p)
      (read : p.read text = .ok w) (zone : f.zone = some id)
      (torn : Zone.isTorn (Text.trimmed id.toList) = true) : PanicsAt f i

section

variable [ZoneLibrary]

theorem exists_of_resolveZone_error {zone : Option String} (h : resolveZone zone = .error fault) :
    ∃ id, zone = some id ∧ Zone.ofId? id = none ∧ fault = .unknownZone (Text.trim id) := by
  unfold resolveZone at h
  split at h
  · cases h
  · rename_i id
    split at h
    · cases h
    · rename_i unknown
      exact ⟨id, rfl, unknown, (Except.error.inj h).symm⟩

theorem exists_of_canonicalText_error {w : WrittenTime} {zone : Option Zone} {kind : TimeKind}
    (h : canonicalText kind w zone = .error fault) :
    kind = .dateTime ∧ instant? w zone = none ∧
      fault = .skipped (String.ofList w.civil.plainText) := by
  unfold canonicalText at h
  split at h
  · cases h
  · split at h
    · cases h
    · rename_i skipped
      exact ⟨rfl, skipped, (Except.error.inj h).symm⟩

/-- The stages at which converting a text can fail. -/
theorem convert_eq_error :
    f.convert text = .error fault ↔
      (∃ e, compile f.format = .error e ∧ .pattern e = fault) ∨
        ∃ p, compile f.format = .ok p ∧
          (p.read text = .error fault ∨ ∃ w, p.read text = .ok w ∧
            (resolveZone f.zone = .error fault ∨ ∃ zone, resolveZone f.zone = .ok zone ∧
              canonicalText f.kind w zone = .error fault)) := by
  have written {cs : List Char} : (pure (String.ofList cs) : Except DateFault String) ≠
      .error fault := nofun
  simp only [convert, bind_error_iff, mapError_error_iff, mapError_ok_iff, written, and_false,
    exists_false, or_false]

/-- A text that cannot be converted is complained about by its fault. -/
theorem complains_of_convert_error (found : i.found = some ⟨l, .str text⟩)
    (h : f.convert text = .error fault) : f.Complains i (f.issue i.name text fault) := by
  rcases convert_eq_error.1 h with ⟨e, pattern, rfl⟩ | ⟨p, compiled, unread | ⟨w, read, unresolved |
    ⟨zone, known, unwritten⟩⟩⟩
  · exact .pattern found pattern
  · cases textFault_read unread with
    | range fault =>
        exact .range found compiled unread
    | shape whole index =>
        exact .shape found compiled unread
    | parts fault =>
        exact .parts found compiled unread
  · rcases exists_of_resolveZone_error unresolved with ⟨id, zone, unknown, rfl⟩
    exact .zone found compiled read zone unknown
  · rcases exists_of_canonicalText_error unwritten with ⟨kind, skipped, rfl⟩
    exact .skipped found compiled read known kind skipped

end

end TimeFrame

namespace Conversion

variable {f : TimeFrame} {i : Item} {is : List Item}

section

variable [ZoneLibrary]

/-- The verdicts on the items of an entry under a date format. -/
theorem verdict_ofTime (f : TimeFrame) (i : Item) :
    (∃ w, f.rewritten? i = some w ∧ i.found.map Match.location = some w.1 ∧
        (ofTime f).verdict i = .replace w.2) ∨
      (f.rewritten? i = none ∧ i.isMissing = true ∧ (ofTime f).verdict i = .missing) ∨
        (f.rewritten? i = none ∧ i.isMissing = false ∧
          ∃ issue, f.Complains i issue ∧ (ofTime f).verdict i = .refuse issue) := by
  rcases i with ⟨name, _ | ⟨l, v⟩⟩
  · exact Or.inr (Or.inl ⟨rfl, rfl, rfl⟩)
  · cases v with
    | null =>
        exact Or.inr (Or.inl ⟨rfl, rfl, rfl⟩)
    | str text =>
        cases converted : f.convert text with
        | ok s =>
            exact Or.inl ⟨(l, .str s), by simp [TimeFrame.rewritten?, converted], rfl,
              by simp [verdict, ofTime, converted]⟩
        | error fault =>
            exact Or.inr (Or.inr ⟨by simp [TimeFrame.rewritten?, converted], rfl, _,
              TimeFrame.complains_of_convert_error rfl converted,
              by simp [verdict, ofTime, converted]⟩)
    | _ =>
        exact Or.inr (Or.inr ⟨rfl, rfl, _, .noText rfl rfl rfl, rfl⟩)

theorem write?_ofTime (f : TimeFrame) : (ofTime f).write? = f.rewritten? := by
  funext i
  rcases verdict_ofTime f i with ⟨w, text, there, verdict⟩ | ⟨none_there, -, verdict⟩ |
    ⟨none_there, -, issue, -, verdict⟩
  · rcases Option.map_eq_some_iff.1 there with ⟨m, found, place⟩
    simp [write?, verdict, found, text, place]
  · simp [write?, verdict, none_there]
  · simp [write?, verdict, none_there]

theorem refuses_ofTime (f : TimeFrame) (i : Item) :
    (ofTime f).refuses i = !(i.isMissing || (f.rewritten? i).isSome) := by
  rcases verdict_ofTime f i with ⟨w, text, -, verdict⟩ | ⟨-, missing, verdict⟩ |
    ⟨none_there, present, issue, -, verdict⟩
  · simp [refuses, verdict, text]
  · simp [refuses, verdict, missing]
  · simp [refuses, verdict, present, none_there]

/-- There is one issue for each item that is not rewritten. -/
theorem issue?_ofTime (f : TimeFrame) (i : Item) :
    ((f.rewritten? i).isSome = true ∧ (ofTime f).issue? i = none) ∨
      ((f.rewritten? i).isNone = true ∧
        ∃ issue, f.Complains i issue ∧ (ofTime f).issue? i = some issue) := by
  rcases verdict_ofTime f i with ⟨w, text, -, verdict⟩ | ⟨none_there, missing, verdict⟩ |
    ⟨none_there, -, issue, complains, verdict⟩
  · exact Or.inl ⟨by simp [text], by simp [issue?, verdict]⟩
  · exact Or.inr ⟨by simp [none_there], _, .missing missing, by simp only [issue?, verdict]; rfl⟩
  · exact Or.inr ⟨by simp [none_there], issue, complains, by simp [issue?, verdict]⟩

theorem issue?_of_convert_error {l : Location} {text : String} {fault : DateFault}
    (found : i.found = some ⟨l, .str text⟩) (h : f.convert text = .error fault) :
    (ofTime f).issue? i = some (f.issue i.name text fault) := by
  simp [issue?, verdict, found, ofTime, h]

/-- What an item is complained about for is the first thing that is wrong with it, and that alone. -/
theorem issue?_of_complains {issue : Issue} (h : f.Complains i issue) :
    (ofTime f).issue? i = some issue := by
  cases h with
  | missing missing =>
      rcases i with ⟨name, _ | ⟨l, v⟩⟩
      · rfl
      · cases v with
        | null =>
            rfl
        | _ =>
            cases missing
  | @noText m found present noText =>
      rcases m with ⟨l, v⟩
      cases v with
      | null =>
          cases present
      | str text =>
          cases noText
      | _ =>
          simp [issue?, verdict, found, ofTime]
  | pattern found pattern =>
      exact issue?_of_convert_error found
        (TimeFrame.convert_eq_error.2 (Or.inl ⟨_, pattern, rfl⟩))
  | range found compiled range =>
      exact issue?_of_convert_error found
        (TimeFrame.convert_eq_error.2 (Or.inr ⟨_, compiled, Or.inl range⟩))
  | shape found compiled shape =>
      exact issue?_of_convert_error found
        (TimeFrame.convert_eq_error.2 (Or.inr ⟨_, compiled, Or.inl shape⟩))
  | parts found compiled parts =>
      exact issue?_of_convert_error found
        (TimeFrame.convert_eq_error.2 (Or.inr ⟨_, compiled, Or.inl parts⟩))
  | @zone _ _ id _ _ found compiled read zone unknown =>
      have unresolved : TimeFrame.resolveZone f.zone = .error (.unknownZone (Text.trim id)) := by
        simp only [TimeFrame.resolveZone, zone, unknown]
      exact issue?_of_convert_error found
        (TimeFrame.convert_eq_error.2 (Or.inr ⟨_, compiled, Or.inr ⟨_, read, Or.inl unresolved⟩⟩))
  | @skipped _ _ _ w zone found compiled read known kind skipped =>
      have unwritten : TimeFrame.canonicalText f.kind w zone =
          .error (.skipped (String.ofList w.civil.plainText)) := by
        simp only [TimeFrame.canonicalText, kind, skipped]
      exact issue?_of_convert_error found
        (TimeFrame.convert_eq_error.2
          (Or.inr ⟨_, compiled, Or.inr ⟨_, read, Or.inr ⟨_, known, unwritten⟩⟩⟩))

/-- The issues that panic are those about torn zones. -/
theorem panics_iff (f : TimeFrame) (i : Item) :
    (∃ issue, (ofTime f).issue? i = some issue ∧ issue.panics = true) ↔ f.PanicsAt i := by
  constructor
  · rintro ⟨issue, said, panics⟩
    rcases issue?_ofTime f i with ⟨-, silent⟩ | ⟨-, issue', complains, said'⟩
    · rw [silent] at said
      cases said
    · obtain rfl : issue' = issue := Option.some.inj (said'.symm.trans said)
      cases complains with
      | zone found compiled read zone unknown =>
          rw [Issue.panics_unknownZone, Text.trim, String.toList_ofList] at panics
          exact .torn found compiled read zone panics
      | _ =>
          cases panics
  · rintro ⟨found, compiled, read, zone, torn⟩
    refine ⟨_, issue?_of_complains (.zone found compiled read zone ?_), ?_⟩
    · exact Zone.ofTrimmedAmong?_of_isTorn torn
    · rwa [Issue.panics_unknownZone, Text.trim, String.toList_ofList]

/-- Complaints leave no choice. -/
theorem eq_of_forall₂_complains {said : List Issue} (h : List.Forall₂ f.Complains is said) :
    said = is.filterMap (ofTime f).issue? := by
  induction h with
  | nil =>
      rfl
  | cons first _ ih =>
      rw [List.filterMap_cons_some (issue?_of_complains first), ← ih]

theorem taken_ofTime (f : TimeFrame) (is : List Item) : (ofTime f).taken is = is := rfl

theorem forall₂_issues_ofTime (f : TimeFrame) (is : List Item) :
    List.Forall₂ f.Complains (is.filter fun i => (f.rewritten? i).isNone) ((ofTime f).issues is) := by
  rw [issues, taken_ofTime]
  induction is with
  | nil =>
      exact .nil
  | cons i is ih =>
      rcases issue?_ofTime f i with ⟨text, silent⟩ | ⟨none_there, issue, complains, said⟩
      · have kept : (f.rewritten? i).isNone = false := by simpa [Option.isNone_eq_false_iff] using text
        rw [List.filter_cons_of_neg (p := fun i => (f.rewritten? i).isNone) (by simp [kept]),
          List.filterMap_cons_none silent]
        exact ih
      · rw [List.filter_cons_of_pos (p := fun i => (f.rewritten? i).isNone) none_there,
          List.filterMap_cons_some said]
        exact .cons complains ih

theorem label?_ofTime (f : TimeFrame) (is : List Item) :
    (ofTime f).label? is =
      if (is.any fun i => (f.rewritten? i).isSome) &&
          is.all fun i => i.isMissing || (f.rewritten? i).isSome
        then some ⟨(TimeFrame.canonical f.kind).reference, none⟩ else none := by
  have refused : (!is.any (ofTime f).refuses) =
      is.all fun i => i.isMissing || (f.rewritten? i).isSome := by
    rw [List.not_any_eq_all_not]
    simp only [refuses_ofTime, Bool.not_not]
  rw [label?, write?_ofTime, refused]
  rfl

end

end Conversion

/-- What is not rewritten stays. -/
theorem TimeFrame.get?_of_rewritten?_eq_none [ZoneLibrary] {f : TimeFrame} {is : List Item}
    {i : Item} {m : Match} {d d' : Json} (fresh : Progress.Fresh d (is.filterMap Item.found))
    (written : Written (is.filterMap f.rewritten?) d d') (mem : i ∈ is)
    (kept : f.rewritten? i = none) (found : i.found = some m) :
    d'.get? m.location = some m.value := by
  have listed : m ∈ is.filterMap Item.found := List.mem_filterMap.2 ⟨i, mem, found⟩
  rw [← fresh.there m listed]
  refine written.elsewhere m.location ?_
  intro w written_w
  rcases List.mem_filterMap.1 written_w with ⟨i', mem', text⟩
  rw [← Conversion.write?_ofTime] at text
  rcases Conversion.exists_found_of_write? text with ⟨m', found', place⟩
  have other : m' ≠ m := by
    rintro rfl
    have same : f.rewritten? i' = f.rewritten? i := by
      simp only [TimeFrame.rewritten?, found, found']
    rw [Conversion.write?_ofTime, same, kept] at text
    cases text
  rw [place]
  have symmetric : Std.Symm fun m m' : Match => Apart m.location m'.location :=
    ⟨fun _ _ apart => apart.symm⟩
  exact fresh.apart.forall (List.mem_filterMap.2 ⟨i', mem', found'⟩) listed other

namespace Record

section

variable [JsonLibrary] [ZoneLibrary] {r here : Record} {e : MetaEntry} {es : List MetaEntry}
  {names : List String} {f : TimeFrame} {d : Json}

/-- The items of an entry tell whether its turn panics. -/
theorem turn?_eq_none_iff (usable : e.WrittenUnder names f)
    (block : here.tree.dataBlock? = some d) (apart : (names.flatMap d.locationsOf).Pairwise Apart) :
    turn? .dateTime here e = none ↔ ∃ i ∈ Item.ofNames d names, f.PanicsAt i := by
  have planned : Pass.dateTime.plan e = .ok (names, .ofTime f) :=
    Pass.plan_dateTime_eq_ok.2 ⟨f, usable, rfl⟩
  rw [turn?_eq_none, turnIssues_of_plan planned block apart, Conversion.issues,
    Conversion.taken_ofTime, List.any_eq_true]
  constructor
  · rintro ⟨issue, said, panics⟩
    rcases List.mem_filterMap.1 said with ⟨i, mem, own⟩
    exact ⟨i, mem, (Conversion.panics_iff f i).1 ⟨issue, own, panics⟩⟩
  · rintro ⟨i, mem, panics⟩
    rcases (Conversion.panics_iff f i).2 panics with ⟨issue, own, panicking⟩
    exact ⟨issue, List.mem_filterMap.2 ⟨i, mem, own⟩, panicking⟩

/-- A pass for dates over a record with data comes to each date entry, unless it panics before. If the turn
of the entry ends, the pass goes on with the entries behind it. An entry whose names or whose reference
cannot be used has one message added to the record, and nothing else happens.

The names of a usable entry may lead to places that are all apart. Then its turn panics exactly if one of
its items is a text that the pattern reads, under a zone that is torn. If none is, each of its items that
can be converted is rewritten at its place, and nothing else in the data changes. Each other item is
complained about once, in the order of the items. The entry gets the canonical reference of its kind exactly
if some item is rewritten and all others are missing, and its name is never changed. -/
theorem turn_of_date_entry (entries : r.tree.metaEntries? = some es)
    (data : r.tree.dataBlock?.isSome = true) (listed : e ∈ es) (kind : e.kind = .dateTime) :
    ((∃ here, Reaches .dateTime r e here) ∨ r.run? .dateTime = none) ∧
      ∀ here, Reaches .dateTime r e here → ∃ d later,
        here.tree.dataBlock? = some d ∧ e :: later <:+ (es.filter fun e => e.kind = .dateTime) ∧
          r.run? .dateTime =
            (turn? .dateTime here e).bind (later.foldlM (turn? .dateTime)) ∧
            ((¬ ∃ names f, e.WrittenUnder names f) → ∃ issue, Pass.dateTime.plan e = .error issue ∧
              turn? .dateTime here e = some (here.addError issue.message)) ∧
            ∀ names f, e.WrittenUnder names f → (names.flatMap d.locationsOf).Pairwise Apart →
              let items := Item.ofNames d names
              let row := items.filterMap f.rewritten?
              (turn? .dateTime here e = none ↔ ∃ i ∈ items, f.PanicsAt i) ∧
              ∀ after, turn? .dateTime here e = some after →
                ∃ d' issues, d.replaceEach? row = some d' ∧ Written row d d' ∧
                  (∀ i ∈ items, f.rewritten? i = none → ∀ m, i.found = some m →
                    d'.get? m.location = some m.value) ∧
                  List.Forall₂ f.Complains (items.filter fun i => (f.rewritten? i).isNone) issues ∧
                  Turned here after e.index d' issues
                    (if (items.any fun i => (f.rewritten? i).isSome) &&
                        items.all fun i => i.isMissing || (f.rewritten? i).isSome
                      then some ⟨(TimeFrame.canonical f.kind).reference, none⟩ else none) ∧
                  after.tree.get? (entryLocation e.index ++ [.key "name"]) =
                    here.tree.get? (entryLocation e.index ++ [.key "name"]) := by
  refine ⟨exists_reaches entries data listed kind, ?_⟩
  intro here reached
  rcases exists_dataBlock_of_visits reached.visits with ⟨d, block⟩
  rcases exists_run?_of_reaches entries reached with ⟨later, behind, run⟩
  refine ⟨d, later, block, behind, run, ?_, ?_⟩
  · intro unusable
    cases planned : Pass.dateTime.plan e with
    | error issue =>
        exact ⟨issue, rfl, turn?_of_plan_eq_error planned⟩
    | ok plan =>
        rcases plan with ⟨names, c⟩
        rcases Pass.plan_dateTime_eq_ok.1 planned with ⟨f, usable, -⟩
        exact absurd ⟨names, f, usable⟩ unusable
  · intro names f usable apart
    refine ⟨turn?_eq_none_iff usable block apart, ?_⟩
    intro after ended
    obtain rfl : workEntry .dateTime here e = after := (turn?_eq_some.1 ended).2
    have planned : Pass.dateTime.plan e = .ok (names, .ofTime f) :=
      Pass.plan_dateTime_eq_ok.2 ⟨f, usable, rfl⟩
    have turn := turned_of_visits reached.visits planned block apart
    rw [Conversion.writes, Conversion.taken_ofTime, Conversion.write?_ofTime,
      Conversion.label?_ofTime] at turn
    rcases turn with ⟨d', row, written, turned⟩
    refine ⟨d', _, row, written, ?_, Conversion.forall₂_issues_ofTime f _, turned, ?_⟩
    · intro i mem kept m found
      exact TimeFrame.get?_of_rewritten?_eq_none (Item.fresh_ofNames apart) written mem kept found
    · refine turned.get?_member (by decide) ?_
      intro label labelled
      split at labelled
      · rw [← Option.some.inj labelled]
      · cases labelled

end

/-- An entry with dates in days, months and years. -/
def drillDatesEntry : Json :=
  .obj [("kind", .str "dateTime"), ("name", .str "local"),
    ("propertyNames", .arr [.str "Runs.at", .str "Gone", .str "Spud", .str "Days", .str "Odd"]),
    ("persistableReference", .obj [("type", .str "DAT"), ("format", .str "dd.MM.yyyy")])]

/-- Dates in a list beside a `null`, a date by itself, a number, and a day that does not exist. -/
def drillData : Json :=
  .obj [("Runs", .arr [.obj [("at", .str "01.02.2021")], .obj [("at", .null)]]),
    ("Odd", .str "31.02.2021"), ("Days", .num (.int 7)), ("Spud", .str "12.08.2020")]

def drillDates : Json :=
  .obj [("data", drillData), ("meta", .arr [drillDatesEntry])]

open BuiltIn in
/-- The dates that exist are rewritten, and what is wrong with the other items is said in their order. -/
theorem turn_of_date_entry_drillDates :
    ∃ here after d', Reaches .dateTime (fresh drillDates) (.ofJson 0 drillDatesEntry) here ∧
      turn? .dateTime here (.ofJson 0 drillDatesEntry) = some after ∧
        Written [([.key "Runs", .index 0, .key "at"], .str "2021-02-01"),
          ([.key "Spud"], .str "2020-08-12")] drillData d' ∧
          Turned here after 0 d'
            [.missingProperty .dateTime "Runs.at", .missingProperty .dateTime "Gone",
              .mismatch "7" "Days" "dd.MM.yyyy",
              .outOfRange "31.02.2021" "Odd" ⟨"DayOfMonth", 1, 28, 31⟩] none := by
  have entries : (fresh drillDates).tree.metaEntries? = some [.ofJson 0 drillDatesEntry] := rfl
  have reached : Reaches .dateTime (fresh drillDates) (.ofJson 0 drillDatesEntry)
      (fresh drillDates).markProcessed := ⟨_, [], [], rfl, rfl, rfl, rfl⟩
  rcases (turn_of_date_entry entries rfl List.mem_cons_self rfl).2 _ reached with
    ⟨d, -, block, -, -, -, usable⟩
  obtain rfl : drillData = d := Option.some.inj block
  rcases usable ["Runs.at", "Gone", "Spud", "Days", "Odd"] ⟨.date, "dd.MM.yyyy", none⟩
    ⟨rfl, _, rfl, rfl⟩ (by decide +kernel) with ⟨panics, done⟩
  -- There is no zone that could be torn.
  obtain ⟨after, ended⟩ : ∃ after, turn? .dateTime (fresh drillDates).markProcessed
      (.ofJson 0 drillDatesEntry) = some after := by
    refine Option.ne_none_iff_exists'.1 fun stopped => ?_
    rcases panics.1 stopped with ⟨i, -, -, -, -, zone, -⟩
    cases zone
  rcases done after ended with ⟨d', issues, -, written, -, complains, turned, -⟩
  -- What the items come to is computed.
  generalize same : Item.ofNames drillData ["Runs.at", "Gone", "Spud", "Days", "Odd"] = items at *
  have row : items.filterMap (TimeFrame.rewritten? ⟨.date, "dd.MM.yyyy", none⟩) =
      [([.key "Runs", .index 0, .key "at"], .str "2021-02-01"),
        ([.key "Spud"], .str "2020-08-12")] := by
    have texts : (items.filterMap (TimeFrame.rewritten? ⟨.date, "dd.MM.yyyy", none⟩)).map
        (Prod.map id Json.text?) =
          [([.key "Runs", .index 0, .key "at"], some "2021-02-01"),
            ([.key "Spud"], some "2020-08-12")] := by
      rw [← same]
      decide +kernel
    rcases List.map_eq_cons_iff.1 texts with ⟨⟨l, v⟩, later, split, first, texts⟩
    rcases List.map_eq_singleton_iff.1 texts with ⟨⟨l', v'⟩, rfl, second⟩
    rcases v <;> cases first
    rcases v' <;> cases second
    exact split
  have said : issues = [.missingProperty .dateTime "Runs.at", .missingProperty .dateTime "Gone",
      .mismatch "7" "Days" "dd.MM.yyyy",
      .outOfRange "31.02.2021" "Odd" ⟨"DayOfMonth", 1, 28, 31⟩] := by
    rw [Conversion.eq_of_forall₂_complains complains, ← same]
    decide +kernel
  have refused : (items.all fun i =>
      i.isMissing || (TimeFrame.rewritten? ⟨.date, "dd.MM.yyyy", none⟩ i).isSome) = false := by
    rw [← same]
    decide +kernel
  rw [row] at written
  rw [said, refused, Bool.and_false] at turned
  exact ⟨_, after, d', reached, ended, written, turned⟩

/-- A zone is looked up as an offset of four bytes, and its second byte lies inside of a character. -/
def tornEntry : Json :=
  .obj [("kind", .str "dateTime"), ("propertyNames", .arr [.str "Spud"]),
    ("persistableReference", .obj [("type", .str "DTM"), ("format", .str "yyyy-MM-dd"),
      ("timeZone", .str "+😀")])]

def tornRecord : Json :=
  .obj [("data", .obj [("Spud", .str "2019-08-03")]), ("meta", .arr [tornEntry])]

open BuiltIn in
/-- A date with nothing wrong about it, under a zone that is torn, is neither rewritten nor reported: the
pass panics, and nothing comes of the record. -/
theorem not_attempted_under_tornZone :
    Reaches .dateTime (fresh tornRecord) (.ofJson 0 tornEntry) (fresh tornRecord).markProcessed ∧
      (MetaEntry.ofJson 0 tornEntry).WrittenUnder ["Spud"] ⟨.dateTime, "yyyy-MM-dd", some "+😀"⟩ ∧
      (["Spud"].flatMap (Json.obj [("Spud", .str "2019-08-03")]).locationsOf).Pairwise Apart ∧
      turn? .dateTime (fresh tornRecord).markProcessed (.ofJson 0 tornEntry) = none ∧
      (fresh tornRecord).run? .dateTime = none := by
  have stopped : turn? .dateTime (fresh tornRecord).markProcessed (.ofJson 0 tornEntry) = none :=
    turn?_eq_none.2 (by decide +kernel)
  have reached : Reaches .dateTime (fresh tornRecord) (.ofJson 0 tornEntry)
      (fresh tornRecord).markProcessed := ⟨_, [], [], rfl, rfl, rfl, rfl⟩
  refine ⟨reached, ⟨rfl, _, rfl, rfl⟩, by decide +kernel, stopped, ?_⟩
  rcases exists_run?_of_reaches rfl reached with ⟨later, -, run⟩
  rw [run, stopped, Option.bind_none]

end Record
end RefFrame
