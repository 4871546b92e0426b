import RefFrame.Json.Exact
import RefFrame.Proofs.Json.Reading
import RefFrame.Proofs.Record.Confinement
import RefFrame.Proofs.Record.History
import RefFrame.Proofs.Record.Settled
import RefFrame.Proofs.Reference.Base
import RefFrame.Proofs.Timestamp
import RefFrame.Zone.Table

/-!
# Normalizing once and for all

What has been normalized with success is not touched by normalizing it again
(`Record.normalize_normalize`). The record that comes out is settled for both passes: its units are
base units, whose way to themselves is the identity on finite floats, and its texts are canonical.

This takes a little of the record (`Record.Repeatable`). Two entries for dates may not share a place,
since the later one would leave there what the earlier one does not read; quantities may be shared.
-/

namespace RefFrame

open Json Location

/-! ## Conditions -/

namespace Json

/-- The record has the entry. -/
def HasEntry (t : Json) (e : MetaEntry) : Prop :=
  ∃ es, t.metaEntries? = some es ∧ e ∈ es

/-- The entry addresses the place in the data of the record. -/
def AddressedBy (t : Json) (e : MetaEntry) (l : Location) : Prop :=
  ∃ d, t.dataBlock? = some d ∧ e.Addresses d l

end Json

/-- What it takes of a record `t`, and of the record `t'` that it is normalized to, for `t'` to stay as
it is. -/
structure Record.Repeatable [JsonLibrary] (t t' : Json) : Prop where
  /-- No place is addressed by two entries for dates. -/
  apart : ∀ {e e' : MetaEntry} {l : Location}, t.HasEntry e → t.HasEntry e' →
    e.kind = .dateTime → e'.kind = .dateTime → t.AddressedBy e l → t.AddressedBy e' l →
      e.index = e'.index
  /-- The base symbols of units come from what they measure. -/
  derived : ∀ {e : MetaEntry} {reference : Json} {ms : Members}, t.HasEntry e → e.kind = .unit →
    e.referenceField = some reference → Reference.members reference = .ok ms →
      Reference.text? ms "baseSymbol" = .ok none
  /-- The texts of base references are read as the trees that they were written from. -/
  readable : ∀ {e : MetaEntry} {reference : Json} {u : UnitFrame}, t.HasEntry e → e.kind = .unit →
    e.referenceField = some reference → UnitFrame.ofReference reference = .ok u →
      Json.read? u.baseReference = some u.baseObject
  /-- Points in time come out in years of four digits. -/
  years : ∀ {e : MetaEntry} {l : Location} {c : CivilTime}, t.HasEntry e → e.kind = .dateTime →
    t.AddressedBy e l → t'.get? (.key "data" :: l) = some (.str (String.ofList c.utcMilliText)) →
      c.IsValid → 0 ≤ c.date.year ∧ c.date.year ≤ 9999

/-! ## Converting what has been converted -/

namespace Conversion

variable {u : UnitFrame} {f : TimeFrame} {w : Json} {x : Float} {text s : String}

theorem finite_of_writes (h : (ofUnit u).Writes w) :
    ∃ x : Float, x.isFinite ∧ w = .num (.float x) := by
  rcases h with ⟨name, v, verdict⟩
  exact (sound_ofUnit u verdict).2

theorem judge_base (finite : x.isFinite) (name : String) :
    (ofUnit u.base).judge name (.num (.float x)) = .replace (.num (.float x)) := by
  refine judge_ofUnit_eq_replace.2 ?_
  have same : u.base.toBase.apply x = x := UnitFrame.apply_toItself finite
  simp only [UnitFrame.convert?, quantity?, Number.toFloat, same, ofFinite?, finite, if_true]

theorem converted_of_writes [ZoneLibrary] (h : (ofTime f).Writes w) :
    ∃ text s, f.convert text = .ok s ∧ w = .str s := by
  rcases h with ⟨name, v, verdict⟩
  rcases (sound_ofTime f verdict).1 with ⟨text, rfl⟩
  cases converted : f.convert text with
  | error fault =>
      simp [ofTime, converted] at verdict
  | ok s =>
      exact ⟨text, s, converted, by simpa [ofTime, converted] using verdict.symm⟩

theorem judge_of_fixed [ZoneLibrary] (h : f.convert s = .ok s) (name : String) :
    (ofTime f).judge name (.str s) = .replace (.str s) := by
  simp [ofTime, h]

end Conversion

/-! ## What a pass leaves -/

namespace Pass

variable {vs : List Json} {d d' v : Json} {A : Location → Prop} {i : Nat}

section

variable [JsonLibrary] [ZoneLibrary]

/-- An entry for units is settled after both passes. -/
theorem exists_settledEntry_unit (clean : (unit.convertEntries (entriesOf vs) d).issues = [])
    (later : Altered .dateTime A (unit.convertEntries (entriesOf vs) d).data d')
    (found : vs[i]? = some v) (kind : (MetaEntry.ofJson i v).kind = .unit)
    (derived : ∀ {reference : Json} {ms : Members},
      (MetaEntry.ofJson i v).referenceField = some reference →
        Reference.members reference = .ok ms → Reference.text? ms "baseSymbol" = .ok none)
    (readable : ∀ {reference : Json} {u : UnitFrame},
      (MetaEntry.ofJson i v).referenceField = some reference →
        UnitFrame.ofReference reference = .ok u →
          Json.read? u.baseReference = some u.baseObject) :
    ∃ names c, unit.SettledEntry d' i
      (relabelled (unit.convertEntries (entriesOf vs) d).relabels i v) names c := by
  rcases exists_finished clean found kind with ⟨names, c, reached, finished⟩
  rcases plan_eq_ok.1 finished.planned with ⟨-, reference, field, asked⟩
  rcases conversion_unit_eq_ok.1 asked with ⟨u, read, rfl⟩
  -- The new reference is read as the base unit, which writes that reference again.
  have base : UnitFrame.ofReference (.str u.baseReference) = .ok u.base :=
    UnitFrame.ofReference_baseReference read (fun ms => derived field) (readable field read)
  refine settledEntry_of_finished finished (finished.after.sameShape.trans later.sameShape)
    (conversion_unit_eq_ok.2 ⟨u.base, base, rfl⟩) rfl ?_
  intro name mem l at_l
  rcases finished.written name mem l at_l with ⟨w, there, writes⟩
  rcases Conversion.finite_of_writes writes with ⟨x, finite, rfl⟩
  -- Other entries for units may have written the place again: it holds some finite float.
  have kept : ∃ y : Float, y.isFinite ∧
      (unit.convertEntries (entriesOf vs) d).data.get? l = some (.num (.float y)) := by
    rcases finished.after.leaf there rfl with same | ⟨w, written, -, -, y, finite', rfl⟩
    · exact ⟨x, finite, same⟩
    · exact ⟨y, finite', written⟩
  rcases kept with ⟨y, finite', kept⟩
  refine ⟨_, later.get?_of_not_rewrites kept rfl ?_, Conversion.judge_base finite'⟩
  rintro w ⟨⟨s, text⟩, -⟩
  cases text

/-- An entry for dates is settled after its pass. -/
theorem exists_settledEntry_dateTime
    (clean : (dateTime.convertEntries (entriesOf vs) d).issues = []) (found : vs[i]? = some v)
    (kind : (MetaEntry.ofJson i v).kind = .dateTime)
    (alone : ∀ l, (MetaEntry.ofJson i v).Addresses d l →
      ¬ dateTime.AddressedByOther vs (MetaEntry.ofJson i v) d l)
    (years : ∀ {l : Location} {c : CivilTime}, (MetaEntry.ofJson i v).Addresses d l →
      (dateTime.convertEntries (entriesOf vs) d).data.get? l =
        some (.str (String.ofList c.utcMilliText)) →
          c.IsValid → 0 ≤ c.date.year ∧ c.date.year ≤ 9999) :
    ∃ names c, dateTime.SettledEntry (dateTime.convertEntries (entriesOf vs) d).data i
      (relabelled (dateTime.convertEntries (entriesOf vs) d).relabels i v) names c := by
  rcases exists_finished clean found kind with ⟨names, c, reached, finished⟩
  rcases plan_eq_ok.1 finished.planned with ⟨written, reference, -, asked⟩
  rcases conversion_dateTime_eq_ok.1 asked with ⟨f, -, rfl⟩
  -- The new reference is that of the canonical frame, and so it stays.
  have label : (Conversion.ofTime (.canonical f.kind)).relabel = (Conversion.ofTime f).relabel := by
    simp only [Conversion.ofTime, TimeFrame.kind_canonical]
  refine settledEntry_of_finished finished finished.after.sameShape
    (conversion_dateTime_eq_ok.2 ⟨_, TimeFrame.ofReference_canonical f.kind, rfl⟩) label ?_
  intro name mem l at_l
  rcases finished.written name mem l at_l with ⟨w, there, writes⟩
  rcases Conversion.converted_of_writes writes with ⟨text, s, converted, rfl⟩
  have addressed : (MetaEntry.ofJson i v).Addresses d l := by
    rw [← finished.sameShape.locationsOf_eq] at at_l
    exact ⟨names, written, name, mem, at_l⟩
  -- No other entry has written the place, so it holds what this one has made of a text.
  have final := finished.after.get?_of_not there rfl (alone l addressed)
  have fixed : (TimeFrame.canonical f.kind).convert s = .ok s := by
    apply TimeFrame.convert_canonical_of_years converted
    rintro c valid rfl
    exact years addressed final valid
  exact ⟨_, final, Conversion.judge_of_fixed fixed⟩

/-- The pass makes of entries and data what is given, without an issue. -/
structure Clean (p : Pass) (vs : List Json) (d : Json) (vs' : List Json) (d' : Json) : Prop where
  entries : vs.mapIdx (relabelled (p.convertEntries (entriesOf vs) d).relabels) = vs'
  data : (p.convertEntries (entriesOf vs) d).data = d'
  issues : (p.convertEntries (entriesOf vs) d).issues = []

end

variable {ms : Members} {vs' vs₁ vs₂ : List Json} {d₁ d₂ t t' v' : Json}

section

variable [JsonLibrary] [ZoneLibrary]

theorem Clean.exists_getElem? {p : Pass} (h : p.Clean vs d vs' d') (found : vs'[i]? = some v') :
    ∃ v, vs[i]? = some v ∧ v' = relabelled (p.convertEntries (entriesOf vs) d).relabels i v := by
  rw [← h.entries, List.getElem?_mapIdx] at found
  rcases Option.map_eq_some_iff.1 found with ⟨v, there, rfl⟩
  exact ⟨v, there, rfl⟩

theorem Clean.altered {p : Pass} (h : p.Clean vs d vs' d') :
    Altered p (fun l => ∃ e ∈ entriesOf vs, e.kind = p.entryKind ∧ e.Addresses d l) d d' := by
  rw [← h.data]
  exact altered_convertEntries p (entriesOf vs) d

/-- A pass without an issue over a record with entries and data. -/
theorem exists_clean {p : Pass} (entries : ms.get? "meta" = some (.arr vs))
    (data : (obj ms).dataBlock? = some d) (clean : (p.run (obj ms)).issues = []) :
    ∃ (ms' : Members) (vs' : List Json) (d' : Json), p.run (obj ms) = ⟨obj ms', [], true⟩ ∧
      ms'.get? "meta" = some (.arr vs') ∧ (obj ms').dataBlock? = some d' ∧
        p.Clean vs d vs' d' := by
  rcases exists_run entries data with ⟨ms', done, entries', data'⟩
  rw [done] at clean
  refine ⟨ms', _, _, ?_, entries', data', rfl, rfl, clean⟩
  rw [done]
  exact congrArg (fun issues => Outcome.mk (obj ms') issues true) clean

/-! ## What both passes leave -/

theorem Clean.hasEntry (first : unit.Clean vs d vs₁ d₁) (array : t.metaEntries? = some (entriesOf vs))
    {e : MetaEntry} (listed : e ∈ entriesOf vs₁) (kind : e.kind = .dateTime) : t.HasEntry e := by
  have reworked := reworked_convertEntries .unit vs d
  rw [first.entries, first.data] at reworked
  exact ⟨_, array, reworked.mem_entriesOf listed kind⟩

theorem settled_unit (array : t.metaEntries? = some (entriesOf vs))
    (first : unit.Clean vs d vs₁ d₁) (second : dateTime.Clean vs₁ d₁ vs₂ d₂)
    (h : Record.Repeatable t t') : unit.Settled vs₂ d₂ := by
  intro i v₂ found₂ kind₂
  rcases second.exists_getElem? found₂ with ⟨v₁, found₁, rfl⟩
  have kind₁ : (MetaEntry.ofJson i v₁).kind = .unit := (kind_relabelled _ i v₁).symm.trans kind₂
  -- The pass for dates does not relabel it.
  have stays : relabelled (dateTime.convertEntries (entriesOf vs₁) d₁).relabels i v₁ = v₁ :=
    relabelled_of_kind_ne found₁ (by rw [kind₁]; decide)
  rw [stays]
  rcases first.exists_getElem? found₁ with ⟨v, found, rfl⟩
  have kind : (MetaEntry.ofJson i v).kind = .unit := (kind_relabelled _ i v).symm.trans kind₁
  have own : t.HasEntry (MetaEntry.ofJson i v) := ⟨_, array, mem_entriesOf.2 ⟨i, v, found, rfl⟩⟩
  have later := second.altered
  rw [← first.data] at later
  exact exists_settledEntry_unit first.issues later found kind (h.derived own kind)
    (h.readable own kind)

theorem settled_dateTime (array : t.metaEntries? = some (entriesOf vs))
    (data : t.dataBlock? = some d) (first : unit.Clean vs d vs₁ d₁)
    (second : dateTime.Clean vs₁ d₁ vs₂ d₂) (final : t'.dataBlock? = some d₂)
    (h : Record.Repeatable t t') : dateTime.Settled vs₂ d₂ := by
  intro i v₂ found₂ kind₂
  rcases second.exists_getElem? found₂ with ⟨v₁, found₁, rfl⟩
  have kind₁ : (MetaEntry.ofJson i v₁).kind = .dateTime := (kind_relabelled _ i v₁).symm.trans kind₂
  have own : t.HasEntry (MetaEntry.ofJson i v₁) :=
    first.hasEntry array (mem_entriesOf.2 ⟨i, v₁, found₁, rfl⟩) kind₁
  have addressedAtFirst {e : MetaEntry} {l : Location} (addressed : e.Addresses d₁ l) :
      t.AddressedBy e l :=
    ⟨d, data, (MetaEntry.addresses_iff_of_sameShape first.altered.sameShape).2 addressed⟩
  rw [← second.data]
  refine exists_settledEntry_dateTime second.issues found₁ kind₁ ?_ ?_
  · rintro l addressed ⟨e', listed', kind', other, addressed'⟩
    exact other (h.apart (first.hasEntry array listed' kind') own kind' kind₁
      (addressedAtFirst addressed') (addressedAtFirst addressed))
  · intro l c addressed written
    apply h.years own kind₁ (addressedAtFirst addressed)
    rw [get?_cons, child?, (present?_eq_some.1 final).1, ← second.data]
    exact written

end

end Pass

/-! ## Records -/

namespace Record

variable {t : Json}

section

variable [JsonLibrary] [ZoneLibrary]

theorem run_unit_of_none (h : t.metaEntries? = none) : Pass.unit.run t = ⟨t, [], false⟩ := by
  cases data : t.dataBlock? <;> simp [Pass.run, h, data]

/-- Success of both passes: there are entries and data, and no issue arises. -/
theorem exists_of_success (h : ((fresh t).normalize ⟨true, true⟩).status = .success) :
    ∃ ms vs d, t = .obj ms ∧ Members.get? ms "meta" = some (.arr vs) ∧ t.dataBlock? = some d ∧
      (Pass.unit.run t).issues = [] ∧ (Pass.dateTime.run (Pass.unit.run t).tree).issues = [] := by
  have merged : (Status.noFrame.merge (Pass.unit.run t).status).merge
      (Pass.dateTime.run (Pass.unit.run t).tree).status = .success := h
  have noError : ¬ ((Pass.unit.run t).status = .error ∨
      (Pass.dateTime.run (Pass.unit.run t).tree).status = .error) := by
    rw [← Status.merge_eq_error, ← Status.noFrame_merge (Pass.unit.run t).status, merged]
    decide
  simp only [Outcome.status_eq_error, not_or, not_not] at noError
  rcases noError with ⟨clean₁, clean₂⟩
  cases entries : t.metaEntries? with
  | none =>
      -- Without entries the outcome is an error for want of data, or that there is nothing to do.
      rw [run_unit_of_none entries] at merged clean₂
      cases data : t.dataBlock? with
      | none =>
          simp [Pass.run, data] at clean₂
      | some d =>
          simp [Pass.run, entries, data, Outcome.status, Status.merge] at merged
  | some es =>
      rcases metaEntries?_eq_some.1 entries with ⟨ms, vs, rfl, array, rfl⟩
      cases data : (obj ms).dataBlock? with
      | none =>
          -- The pass for dates reports that the data are missing.
          simp [Pass.run, entries, data] at clean₂
      | some d =>
          exact ⟨ms, vs, d, rfl, array, rfl, clean₁, clean₂⟩

/-- Normalizing a record that has been normalized with success ends with success, says nothing and
leaves the record as it is. -/
theorem normalize_normalize {t : Json}
    (succeeded : ((fresh t).normalize ⟨true, true⟩).status = .success)
    (repeatable : Repeatable t ((fresh t).normalize ⟨true, true⟩).tree) :
    (fresh ((fresh t).normalize ⟨true, true⟩).tree).normalize ⟨true, true⟩ =
      ⟨((fresh t).normalize ⟨true, true⟩).tree, [], .success⟩ := by
  rcases exists_of_success succeeded with ⟨ms, vs, d, rfl, array, data, clean₁, clean₂⟩
  rcases Pass.exists_clean array data clean₁ with ⟨ms₁, vs₁, d₁, done₁, array₁, data₁, first⟩
  rw [done₁] at clean₂
  rcases Pass.exists_clean array₁ data₁ clean₂ with ⟨ms₂, vs₂, d₂, done₂, array₂, data₂, second⟩
  have result : ((fresh (.obj ms)).normalize ⟨true, true⟩).tree = .obj ms₂ := by
    show (Pass.dateTime.run (Pass.unit.run (.obj ms)).tree).tree = .obj ms₂
    rw [done₁, done₂]
  rw [result] at repeatable ⊢
  have entries : (obj ms).metaEntries? = some (entriesOf vs) :=
    metaEntries?_eq_some.2 ⟨ms, vs, rfl, array, rfl⟩
  have units : Pass.unit.run (.obj ms₂) = ⟨.obj ms₂, [], true⟩ :=
    Pass.run_of_settled array₂ data₂ (Pass.settled_unit entries first second repeatable)
  have dates : Pass.dateTime.run (.obj ms₂) = ⟨.obj ms₂, [], true⟩ :=
    Pass.run_of_settled array₂ data₂
      (Pass.settled_dateTime entries data first second data₂ repeatable)
  simp [normalize, run, absorb, fresh, units, dates, Outcome.status, Status.merge, Status.rank]

end

/-- A depth in units of one half, and a day that is written from its end. -/
def drilling : Json :=
  .obj [("data", .obj [("MD", .num (.float 8.0)), ("Spud", .str "03.08.2019")]),
    ("meta", .arr [
      .obj [("kind", .str "Unit"),
        ("persistableReference", .obj [("type", .str "USO"), ("scale", .num (.float 0.5)),
          ("baseMeasurement", .obj [("ancestry", .str "Length")])]),
        ("propertyNames", .arr [.str "MD"])],
      .obj [("kind", .str "DateTime"),
        ("persistableReference", .obj [("type", .str "DAT"), ("format", .str "dd.MM.yyyy")]),
        ("propertyNames", .arr [.str "Spud"])]])]

def halfMetre : UnitFrame :=
  ⟨none, ⟨0.5, -0.0 * 0.5⟩, "m", some (.obj [("ancestry", .str "Length")])⟩

theorem hasEntry_drilling {e : MetaEntry} (h : drilling.HasEntry e) :
    (e.kind = .unit ∧ e.referenceField = some (.obj [("type", .str "USO"),
        ("scale", .num (.float 0.5)), ("baseMeasurement", .obj [("ancestry", .str "Length")])])) ∨
      (e.kind = .dateTime ∧ e.index = 1 ∧ e.names = .ok ["Spud"]) := by
  rcases h with ⟨es, entries, listed⟩
  obtain rfl := Option.some.inj entries
  rcases List.mem_cons.1 listed with rfl | later
  · exact Or.inl ⟨rfl, rfl⟩
  · obtain rfl := List.mem_singleton.1 later
    exact Or.inr ⟨rfl, rfl, rfl⟩

section

open BuiltIn

theorem read?_halfMetre : Json.read? halfMetre.baseReference = some halfMetre.baseObject := by
  have tokens : tokens? halfMetre.baseReference.toList = some [.openObject,
      .str "baseMeasurement".toList, .colon, .openObject, .str "ancestry".toList, .colon,
      .str "Length".toList, .closeObject, .comma, .str "scaleOffset".toList, .colon, .openObject,
      .str "offset".toList, .colon, .num (.float 0.0), .comma, .str "scale".toList, .colon,
      .num (.float 1.0), .closeObject, .comma, .str "symbol".toList, .colon, .str "m".toList,
      .comma, .str "type".toList, .colon, .str "USO".toList, .closeObject] := by
    decide +kernel
  exact readWithin?_of_tokens? tokens rfl

theorem text_drilling {l : Location} {text : String} {e : MetaEntry} (names : e.names = .ok ["Spud"])
    (addressed : drilling.AddressedBy e l)
    (written : ((fresh drilling).normalize ⟨true, true⟩).tree.get? (.key "data" :: l) =
      some (.str text)) : text = "2019-08-03" := by
  rcases addressed with ⟨d, data, addressed⟩
  rcases (MetaEntry.addresses_iff names).1 addressed with ⟨name, mem, at_l⟩
  obtain rfl := List.mem_singleton.1 mem
  obtain rfl := Option.some.inj data
  have place : l = [.key "Spud"] := List.mem_singleton.1 at_l
  have final : (((fresh drilling).normalize ⟨true, true⟩).tree.get?
      [.key "data", .key "Spud"]).bind Json.text? = some "2019-08-03" := by
    decide +kernel
  rw [place] at written
  rw [written] at final
  exact Option.some.inj final

theorem repeatable_drilling :
    Repeatable drilling ((fresh drilling).normalize ⟨true, true⟩).tree := by
  refine ⟨?_, ?_, ?_, ?_⟩
  · intro e e' l has has' kind kind' _ _
    rcases hasEntry_drilling has with ⟨unit, -⟩ | ⟨-, index, -⟩
    · rw [unit] at kind
      cases kind
    · rcases hasEntry_drilling has' with ⟨unit, -⟩ | ⟨-, index', -⟩
      · rw [unit] at kind'
        cases kind'
      · rw [index, index']
  · intro e reference ms has kind field found
    rcases hasEntry_drilling has with ⟨-, field'⟩ | ⟨dateTime, -⟩
    · obtain rfl := Option.some.inj (field'.symm.trans field)
      obtain rfl := Except.ok.inj found
      rfl
    · rw [dateTime] at kind
      cases kind
  · intro e reference u has kind field read
    rcases hasEntry_drilling has with ⟨-, field'⟩ | ⟨dateTime, -⟩
    · obtain rfl := Option.some.inj (field'.symm.trans field)
      have base : UnitFrame.ofReference (.obj [("type", .str "USO"), ("scale", .num (.float 0.5)),
          ("baseMeasurement", .obj [("ancestry", .str "Length")])]) = .ok halfMetre := rfl
      obtain rfl := Except.ok.inj (base.symm.trans read)
      exact read?_halfMetre
    · rw [dateTime] at kind
      cases kind
  · intro e l c has kind addressed written valid
    rcases hasEntry_drilling has with ⟨unit, -⟩ | ⟨-, -, names⟩
    · rw [unit] at kind
      cases kind
    · have text : c.utcMilliText = "2019-08-03".toList := by
        rw [← text_drilling names addressed written, String.toList_ofList]
      apply Classical.byContradiction
      intro outside
      have signed : c.date.year < 0 ∨ 9999 < c.date.year := by omega
      rcases DatePattern.text_of_signed signed with ⟨sign, digits, shown, notDigit⟩
      have first : sign = '2' := by
        simp only [CivilTime.utcMilliText, shown, List.cons_append] at text
        exact (List.cons.inj text).1
      rw [first] at notDigit
      cases notDigit

theorem normalize_normalize_drilling :
    ((fresh drilling).normalize ⟨true, true⟩).status = .success ∧
      Repeatable drilling ((fresh drilling).normalize ⟨true, true⟩).tree ∧
      (fresh ((fresh drilling).normalize ⟨true, true⟩).tree).normalize ⟨true, true⟩ =
        ⟨((fresh drilling).normalize ⟨true, true⟩).tree, [], .success⟩ := by
  have succeeded : ((fresh drilling).normalize ⟨true, true⟩).status = .success := by
    decide +kernel
  exact ⟨succeeded, repeatable_drilling, normalize_normalize succeeded repeatable_drilling⟩

end

end Record
end RefFrame
