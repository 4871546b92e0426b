import Mathlib.Data.List.Basic
import RefFrame.Json.Exact
import RefFrame.Proofs.Record.Snapshot

/-!
# The turn of an entry in a unit

An entry that gives properties in a unit is worked off up to its first illegal item: the numbers before
it are brought to the base unit, what is missing before it is reported, and it is reported as the last
thing of the entry (`Record.turn_of_unit_entry`). The items, and with them the first illegal one, are
those of the data before the entry.
-/

namespace RefFrame

open Json Location

/-- The entry says that the properties with the names are given in the unit. -/
def MetaEntry.GivesIn [JsonLibrary] (e : MetaEntry) (names : List String) (u : UnitFrame) : Prop :=
  e.names = .ok names ∧
    ∃ reference, e.reference = .ok reference ∧ UnitFrame.ofReference reference = .ok u

theorem Pass.plan_unit_eq_ok [JsonLibrary] [ZoneLibrary] {e : MetaEntry} {names : List String}
    {c : Conversion} :
    unit.plan e = .ok (names, c) ↔ ∃ u, e.GivesIn names u ∧ c = .ofUnit u := by
  simp only [plan_eq_ok, conversion_unit_eq_ok, MetaEntry.GivesIn, MetaEntry.reference_eq_ok]
  constructor
  · rintro ⟨written, reference, there, u, read, rfl⟩
    exact ⟨u, ⟨written, reference, there, read⟩, rfl⟩
  · rintro ⟨u, ⟨written, reference, there, read⟩, rfl⟩
    exact ⟨written, reference, there, u, read, rfl⟩

namespace UnitFrame

/-- The number that an item holds, brought to the base unit, with its place. There is none if it is not
finite there. -/
def converted? (u : UnitFrame) (i : Item) : Option (Location × Json) :=
  match i.found with
  | some m =>
    match m.value.quantity? with
    | some x =>
      if (u.toBase.apply x).isFinite then some (m.location, .num (.float (u.toBase.apply x)))
      else none
    | none => none
  | none => none

/-- Something is there, no `null`, and it is no number that can be brought to the base unit. -/
def isIllegal (u : UnitFrame) (i : Item) : Bool :=
  !i.isMissing && (u.converted? i).isNone

/-- The items before the first illegal one. -/
def legal (u : UnitFrame) (is : List Item) : List Item :=
  is.takeWhile fun i => !u.isIllegal i

variable {u : UnitFrame} {i : Item} {is : List Item} {m : Match}

theorem converted?_eq (found : i.found = some m) :
    u.converted? i = (u.convert? m.value).map fun v => (m.location, v) := by
  simp only [converted?, found, convert?]
  cases m.value.quantity? with
  | none =>
      rfl
  | some x =>
      simp only [ofFinite?]
      split <;> rfl

theorem converted?_of_isMissing (missing : i.isMissing = true) : u.converted? i = none := by
  rcases i with ⟨name, _ | ⟨l, v⟩⟩
  · rfl
  · cases v with
    | null =>
        rfl
    | _ =>
        cases missing

/-- Of the items of an entry, those without a number are missing or illegal. -/
theorem converted?_of_isIllegal (illegal : u.isIllegal i = true) : u.converted? i = none := by
  simp only [isIllegal, Bool.and_eq_true, Option.isNone_iff_eq_none] at illegal
  exact illegal.2

end UnitFrame

namespace Conversion

variable {u : UnitFrame} {i : Item} {is : List Item}

/-- The verdicts on the items of an entry in a unit. -/
theorem verdict_ofUnit (u : UnitFrame) (i : Item) :
    (i.isMissing = true ∧ (ofUnit u).verdict i = .missing) ∨
      (∃ w, u.converted? i = some w ∧ i.found.map Match.location = some w.1 ∧
        (ofUnit u).verdict i = .replace w.2) ∨
        (u.isIllegal i = true ∧ (ofUnit u).verdict i = .refuse (.illegalValue i.name)) := by
  rcases i with ⟨name, _ | m⟩
  · exact Or.inl ⟨rfl, rfl⟩
  · cases null : m.value.isNull with
    | true =>
        exact Or.inl ⟨null, by simp [verdict, ofUnit, null]⟩
    | false =>
        have converted := UnitFrame.converted?_eq (u := u) (i := ⟨name, some m⟩) rfl
        cases number : u.convert? m.value with
        | some v =>
            exact Or.inr (Or.inl ⟨(m.location, v), by simp [converted, number], rfl,
              judge_ofUnit_eq_replace.2 number⟩)
        | none =>
            exact Or.inr (Or.inr ⟨by simp [UnitFrame.isIllegal, Item.isMissing, null, converted, number],
              by simp [verdict, ofUnit, null, number]⟩)

theorem write?_ofUnit (u : UnitFrame) : (ofUnit u).write? = u.converted? := by
  funext i
  rcases verdict_ofUnit u i with ⟨missing, verdict⟩ | ⟨w, number, there, verdict⟩ |
    ⟨illegal, verdict⟩
  · simp [write?, verdict, UnitFrame.converted?_of_isMissing missing]
  · rcases Option.map_eq_some_iff.1 there with ⟨m, found, place⟩
    simp [write?, verdict, found, number, place]
  · simp [write?, verdict, UnitFrame.converted?_of_isIllegal illegal]

theorem refuses_ofUnit (u : UnitFrame) : (ofUnit u).refuses = u.isIllegal := by
  funext i
  rcases verdict_ofUnit u i with ⟨missing, verdict⟩ | ⟨w, number, -, verdict⟩ | ⟨illegal, verdict⟩
  · simp [refuses, verdict, UnitFrame.isIllegal, missing]
  · simp [refuses, verdict, UnitFrame.isIllegal, number]
  · simp [refuses, verdict, illegal]

theorem issue?_ofUnit_of_legal (legal : u.isIllegal i = false) :
    (ofUnit u).issue? i = if i.isMissing then some (.missingProperty .unit i.name) else none := by
  rcases verdict_ofUnit u i with ⟨missing, verdict⟩ | ⟨w, number, -, verdict⟩ | ⟨illegal, -⟩
  · simp only [issue?, verdict, missing, if_true]
    rfl
  · cases missing : i.isMissing with
    | true =>
        rw [UnitFrame.converted?_of_isMissing missing] at number
        cases number
    | false =>
        simp [issue?, verdict]
  · rw [legal] at illegal
    cases illegal

theorem issue?_ofUnit_of_illegal (illegal : u.isIllegal i = true) :
    (ofUnit u).issue? i = some (.illegalValue i.name) := by
  rcases verdict_ofUnit u i with ⟨missing, -⟩ | ⟨w, number, -, -⟩ | ⟨-, verdict⟩
  · simp [UnitFrame.isIllegal, missing] at illegal
  · simp [UnitFrame.isIllegal, number] at illegal
  · simp [issue?, verdict]

theorem taken_ofUnit (u : UnitFrame) (is : List Item) :
    (ofUnit u).taken is = u.legal is ++ (is.find? u.isIllegal).toList := by
  rw [taken, refuses_ofUnit]
  rfl

/-- The illegal item itself is not written. -/
theorem writes_ofUnit (u : UnitFrame) (is : List Item) :
    (ofUnit u).writes is = (u.legal is).filterMap u.converted? := by
  have illegal : (is.find? u.isIllegal).toList.filterMap u.converted? = [] := by
    cases found : is.find? u.isIllegal with
    | none =>
        rfl
    | some i =>
        simp [UnitFrame.converted?_of_isIllegal (List.find?_some found)]
  simp only [writes, taken_ofUnit, write?_ofUnit, List.filterMap_append, illegal, List.append_nil]

theorem issues_ofUnit (u : UnitFrame) (is : List Item) :
    (ofUnit u).issues is =
      ((u.legal is).filter Item.isMissing).map (fun i => .missingProperty .unit i.name) ++
        ((is.find? u.isIllegal).map fun i => .illegalValue i.name).toList := by
  have before : (u.legal is).filterMap (ofUnit u).issue? =
      ((u.legal is).filter Item.isMissing).map fun i => .missingProperty .unit i.name := by
    rw [← List.filterMap_eq_map', List.filterMap_filter]
    refine List.filterMap_congr ?_
    intro i mem
    exact issue?_ofUnit_of_legal (by simpa using List.mem_takeWhile_imp mem)
  have last : (is.find? u.isIllegal).toList.filterMap (ofUnit u).issue? =
      ((is.find? u.isIllegal).map fun i => .illegalValue i.name).toList := by
    cases found : is.find? u.isIllegal with
    | none =>
        rfl
    | some i =>
        simp [issue?_ofUnit_of_illegal (List.find?_some found)]
  rw [issues, taken_ofUnit, List.filterMap_append, before, last]

end Conversion

/-- The first illegal item and all after it stay. -/
theorem UnitFrame.get?_of_mem_rest {u : UnitFrame} {is : List Item} {i : Item} {m : Match} {d d' : Json}
    (fresh : Progress.Fresh d (is.filterMap Item.found))
    (written : Written ((u.legal is).filterMap u.converted?) d d')
    (rest : i ∈ is.dropWhile fun i => !u.isIllegal i) (found : i.found = some m) :
    d'.get? m.location = some m.value := by
  have there := fresh.there m
    (List.mem_filterMap.2 ⟨i, (List.dropWhile_suffix _).subset rest, found⟩)
  rw [← there]
  -- What is written belongs to the items before.
  have apart := fresh.apart
  rw [← List.takeWhile_append_dropWhile (p := fun i => !u.isIllegal i) (l := is),
    List.filterMap_append, List.pairwise_append] at apart
  refine written.elsewhere m.location ?_
  intro w mem
  rcases List.mem_filterMap.1 mem with ⟨i', before, number⟩
  rw [← Conversion.write?_ofUnit] at number
  rcases Conversion.exists_found_of_write? number with ⟨m', found', place⟩
  rw [place]
  exact apart.2.2 m' (List.mem_filterMap.2 ⟨i', before, found'⟩) m
    (List.mem_filterMap.2 ⟨i, rest, found⟩)

namespace Record

variable {r : Record} {e : MetaEntry} {es : List MetaEntry}

/-- A pass for units comes to each unit entry of a record with data, and then goes on with the entries
behind it. An entry whose names or whose reference cannot be used has one message added to the record,
and nothing else happens.

The names of a usable entry may lead to places that are all apart. Then the numbers before its first
illegal item are brought to the base unit, each at its place, and nothing else in the data changes. The
missing items before it are reported in their order, and then the illegal one is, which is left as it
stands with all that come after it. The entry gets its new reference and name exactly if there is no
illegal item and some number. -/
theorem turn_of_unit_entry [JsonLibrary] [ZoneLibrary] (entries : r.tree.metaEntries? = some es)
    (data : r.tree.dataBlock?.isSome = true) (listed : e ∈ es) (kind : e.kind = .unit) :
    (∃ here, Visits .unit r e here) ∧
      ∀ here, Visits .unit r e here → ∃ d later,
        here.tree.dataBlock? = some d ∧ e :: later <:+ (es.filter fun e => e.kind = .unit) ∧
          r.run .unit = later.foldl (workEntry .unit) (workEntry .unit here e) ∧
            ((¬ ∃ names u, e.GivesIn names u) → ∃ issue, Pass.unit.plan e = .error issue ∧
              workEntry .unit here e = here.addError issue.message) ∧
            ∀ names u, e.GivesIn names u → (names.flatMap d.locationsOf).Pairwise Apart →
              let items := Item.ofNames d names
              let row := (u.legal items).filterMap u.converted?
              ∃ d', d.replaceEach? row = some d' ∧ Written row d d' ∧
                (∀ i ∈ items.dropWhile (fun i => !u.isIllegal i), ∀ m, i.found = some m →
                  d'.get? m.location = some m.value) ∧
                Turned here (workEntry .unit here e) e.index d'
                  (((u.legal items).filter Item.isMissing).map
                      (fun i => .missingProperty .unit i.name) ++
                    ((items.find? u.isIllegal).map fun i => .illegalValue i.name).toList)
                  (if (items.any fun i => (u.converted? i).isSome) && !items.any u.isIllegal then
                    some ⟨u.baseReference, some u.baseSymbol⟩
                  else none) := by
  refine ⟨exists_visits entries data listed kind, ?_⟩
  intro here visits
  rcases exists_dataBlock_of_visits visits with ⟨d, block⟩
  rcases exists_run_of_visits entries visits with ⟨later, behind, run⟩
  refine ⟨d, later, block, behind, run, ?_, ?_⟩
  · intro unusable
    cases planned : Pass.unit.plan e with
    | error issue =>
        exact ⟨issue, rfl, workEntry_of_plan_eq_error planned⟩
    | ok plan =>
        rcases plan with ⟨names, c⟩
        rcases Pass.plan_unit_eq_ok.1 planned with ⟨u, usable, -⟩
        exact absurd ⟨names, u, usable⟩ unusable
  · intro names u usable apart
    have planned : Pass.unit.plan e = .ok (names, .ofUnit u) :=
      Pass.plan_unit_eq_ok.2 ⟨u, usable, rfl⟩
    have turn := turned_of_visits visits planned block apart
    rw [Conversion.writes_ofUnit, Conversion.issues_ofUnit, Conversion.label?,
      Conversion.write?_ofUnit, Conversion.refuses_ofUnit] at turn
    rcases turn with ⟨d', row, written, turned⟩
    refine ⟨d', row, written, ?_, turned⟩
    intro i rest m found
    exact UnitFrame.get?_of_mem_rest (Item.fresh_ofNames apart) written rest found

/-- An entry in a unit of one half. -/
def soundingsEntry : Json :=
  .obj [("kind", .str "unit"),
    ("propertyNames", .arr [.str "Depths.MD", .str "Gone", .str "Speed", .str "Note", .str "Late"]),
    ("persistableReference", .obj [("type", .str "USO"), ("scale", .num (.float 0.5)),
      ("baseMeasurement", .obj [("ancestry", .str "Length")])])]

/-- Soundings with a number in a list beside a `null`, a number in a text, a text that is none, and a
number after it. -/
def soundings : Json :=
  .obj [
    ("data", .obj [
      ("Depths", .arr [.obj [("MD", .num (.float 100.0))], .obj [("MD", .null)]]),
      ("Speed", .str " 12.5"), ("Note", .str "deep"), ("Late", .num (.float 3.0))]),
    ("meta", .arr [soundingsEntry])]

open BuiltIn in
/-- The number in the list and the one in the text are halved, and the one after the note is not. -/
theorem turn_of_unit_entry_soundings :
    ∃ here d d', Visits .unit (fresh soundings) (.ofJson 0 soundingsEntry) here ∧
      here.tree.dataBlock? = some d ∧
        Written [([.key "Depths", .index 0, .key "MD"], .num (.float 50.0)),
          ([.key "Speed"], .num (.float 6.25))] d d' ∧
          Turned here (workEntry .unit here (.ofJson 0 soundingsEntry)) 0 d'
            [.missingProperty .unit "Depths.MD", .missingProperty .unit "Gone", .illegalValue "Note"]
            none := by
  have entries : (fresh soundings).tree.metaEntries? = some [.ofJson 0 soundingsEntry] := rfl
  have visits : Visits .unit (fresh soundings) (.ofJson 0 soundingsEntry)
      (fresh soundings).markProcessed := ⟨_, [], [], rfl, rfl, rfl, rfl⟩
  rcases (turn_of_unit_entry entries rfl List.mem_cons_self rfl).2 _ visits with
    ⟨d, -, block, -, -, -, usable⟩
  have usable' := usable ["Depths.MD", "Gone", "Speed", "Note", "Late"] ⟨none, ⟨0.5, -0.0 * 0.5⟩, "m",
    some (.obj [("ancestry", .str "Length")])⟩ ⟨rfl, _, rfl, rfl⟩
  obtain rfl := Option.some.inj block
  rcases usable' (by decide +kernel) with ⟨d', -, written, -, turned⟩
  exact ⟨_, _, d', visits, rfl, written, turned⟩

end Record
end RefFrame
