import RefFrame.Json.Exact
import RefFrame.Proofs.Json.Differs
import RefFrame.Proofs.Record.Run
import RefFrame.Record.Basic
import RefFrame.Zone.Table

/-!
# What normalizing may change

`Record.Change` lists what the passes may exchange in a record: an entry of `meta`, for one with its new
labels, and a leaf of the data that some entry addresses, for one that the entry's pass may write.
`differs_normalize` says that normalizing changes nothing else.

Both passes are described in the terms of the record at the start. This takes that the first pass
keeps the shape of the data, so that paths lead where they led, and that it keeps the entries of the
second as they are.
-/

namespace RefFrame

open Json Location

namespace Passes

/-- Whether a pass is among the chosen ones. -/
def Has (passes : Passes) : Pass → Prop
  | .unit => passes.units = true
  | .dateTime => passes.dates = true

end Passes

/-- What a pass may make of an entry of its kind, by their members: the new reference comes in the
place of the old one, and the pass for units gives the entry a name, at the end if it had none. -/
structure EntryRewritten (p : Pass) (ms ms' : Members) : Prop where
  kind : (MetaEntry.ofJson 0 (.obj ms)).kind = p.entryKind
  keys : ms'.keys = ms.keys ∨ p = .unit ∧ "name" ∉ ms.keys ∧ ms'.keys = ms.keys ++ ["name"]
  reference : ∃ s, ms'.get? "persistableReference" = some (.str s)
  name : p = .unit → ∃ s, ms'.get? "name" = some (.str s)
  others : ∀ k, k ≠ "persistableReference" → (p = .unit → k ≠ "name") → ms'.get? k = ms.get? k

/-- What the passes may exchange in a record, and where. -/
inductive Record.Change (passes : Passes) (record : Json) : Location → Json → Json → Prop
  | entry {p : Pass} {i : Nat} {ms ms' : Members} (chosen : passes.Has p)
      (rewritten : EntryRewritten p ms ms') :
      Record.Change passes record (entryLocation i) (.obj ms) (.obj ms')
  | leaf {p : Pass} {es : List MetaEntry} {e : MetaEntry} {d v w : Json} {l : Location}
      (chosen : passes.Has p) (entries : record.metaEntries? = some es) (listed : e ∈ es)
      (kind : e.kind = p.entryKind) (data : record.dataBlock? = some d)
      (addressed : e.Addresses d l) (rewritten : p.Rewrites v w) :
      Record.Change passes record (.key "data" :: l) v w

/-! ## Entries -/

namespace EntryRewritten

variable {p q : Pass} {ms ms' : Members} {c : Conversion} {e : MetaEntry} {names : List String}
  {i : Nat}

theorem relabel_name [JsonLibrary] [ZoneLibrary] {reference : Json} (h : p.conversion reference = .ok c) :
    (p = .unit ∧ ∃ s, c.relabel.name = some s) ∨ (p = .dateTime ∧ c.relabel.name = none) := by
  cases p with
  | unit =>
      rcases Pass.conversion_unit_eq_ok.1 h with ⟨u, -, rfl⟩
      exact Or.inl ⟨rfl, u.baseSymbol, rfl⟩
  | dateTime =>
      rcases Pass.conversion_dateTime_eq_ok.1 h with ⟨f, -, rfl⟩
      exact Or.inr ⟨rfl, rfl⟩

theorem of_plan [JsonLibrary] [ZoneLibrary] (kind : (MetaEntry.ofJson i (.obj ms)).kind = p.entryKind)
    (planned : p.plan (MetaEntry.ofJson i (.obj ms)) = .ok (names, c)) :
    EntryRewritten p ms (c.relabel.apply ms) := by
  rcases Pass.plan_eq_ok.1 planned with ⟨-, reference, field, found⟩
  have present : "persistableReference" ∈ ms.keys := by
    have there : ms.get? "persistableReference" = some reference := (present?_eq_some.1 field).1
    exact Members.mem_keys_of_get? there
  -- The pass for units gives a name besides the reference, the pass for dates does not.
  rcases relabel_name found with ⟨rfl, s, named⟩ | ⟨rfl, unnamed⟩
  · refine ⟨kind, ?_, ⟨_, Relabel.get?_apply_reference⟩, ?_, ?_⟩
    · rw [Relabel.keys_apply present]
      by_cases old : "name" ∈ ms.keys
      · exact Or.inl (if_pos (Or.inl old))
      · exact Or.inr ⟨rfl, old, if_neg (by simp [old, named])⟩
    · intro _
      exact ⟨s, Relabel.get?_apply_name named⟩
    · intro k reference name
      exact Relabel.get?_apply_of_ne reference (Or.inl (name rfl))
  · refine ⟨kind, ?_, ⟨_, Relabel.get?_apply_reference⟩, ?_, ?_⟩
    · rw [Relabel.keys_apply present]
      exact Or.inl (if_pos (Or.inr unnamed))
    · intro unit
      cases unit
    · intro k reference _
      exact Relabel.get?_apply_of_ne reference (Or.inr unnamed)

theorem kind_eq (h : EntryRewritten p ms ms') :
    (MetaEntry.ofJson i (.obj ms')).kind = (MetaEntry.ofJson i (.obj ms)).kind := by
  have same : Members.get? ms' "kind" = Members.get? ms "kind" :=
    h.others "kind" (by decide) (fun _ => by decide)
  simp [MetaEntry.ofJson, member?, same]

end EntryRewritten

/-! ## One pass -/

/-- How the array of entries and the data block may come out of passes with `on`. -/
structure Reworked (on : Pass → Prop) (vs vs' : List Json) (d d' : Json) : Prop where
  length : vs'.length = vs.length
  entry : ∀ {i : Nat} {v v' : Json}, vs[i]? = some v → vs'[i]? = some v' →
    v' = v ∨ ∃ p ms ms', on p ∧ v = .obj ms ∧ v' = .obj ms' ∧ EntryRewritten p ms ms'
  sameShape : SameShape d d'
  leaf : ∀ {l : Location} {v : Json}, d.get? l = some v → v.IsLeaf →
    d'.get? l = some v ∨ ∃ p e w, on p ∧
      e ∈ entriesOf vs ∧ e.kind = p.entryKind ∧
        e.Addresses d l ∧ d'.get? l = some w ∧ p.Rewrites v w

/-- A record that passes with `on` have gone over: it is as it was, or its entries and its data have
been reworked. -/
inductive GoneOver (on : Pass → Prop) (t : Json) : Json → Prop
  | kept : GoneOver on t t
  | reworked {ms ms' : Members} {vs vs' : List Json} {d d' : Json} (object : t = .obj ms)
      (entries : ms.get? "meta" = some (.arr vs)) (data : t.dataBlock? = some d)
      (entries' : ms'.get? "meta" = some (.arr vs')) (data' : ms'.get? "data" = some d')
      (keys : ms'.keys = ms.keys)
      (others : ∀ k, k ≠ "meta" → k ≠ "data" → ms'.get? k = ms.get? k)
      (result : Reworked on vs vs' d d') : GoneOver on t (.obj ms')

variable {on on' : Pass → Prop} {p : Pass} {t t' t'' d d' d'' : Json} {vs vs' vs'' : List Json}
  {es : List MetaEntry} {ms : Members}

/-- What a pass does to the entries and to the data. -/
theorem reworked_convertEntries [JsonLibrary] [ZoneLibrary] (p : Pass) (vs : List Json) (d : Json) :
    Reworked (· = p) vs
      (vs.mapIdx (relabelled (p.convertEntries
        (entriesOf vs) d).relabels))
      d (p.convertEntries (entriesOf vs) d).data := by
  have altered := Pass.altered_convertEntries p
    (entriesOf vs) d
  refine ⟨by simp, ?_, altered.sameShape, ?_⟩
  · intro i v v' found found'
    rw [List.getElem?_mapIdx, found, Option.map_some, Option.some.injEq] at found'
    rw [← found', relabelled]
    cases labels : (p.convertEntries
        (entriesOf vs) d).relabels.lookup i with
    | none =>
        exact Or.inl rfl
    | some r =>
        rcases Pass.exists_turn_of_lookup labels with
          ⟨u, names, c, reached, there, kind, rfl, turn⟩
        obtain rfl : u = v := by simpa [there] using found
        cases u with
        | obj ms =>
            exact Or.inr ⟨p, ms, _, rfl, rfl, rfl, EntryRewritten.of_plan kind turn.planned⟩
        | _ =>
            exact Or.inl rfl
  · intro l v there leaf
    rcases altered.leaf there leaf with same | ⟨w, written, ⟨e, listed, kind, addressed⟩, rewritten⟩
    · exact Or.inl same
    · exact Or.inr ⟨p, e, w, rfl, listed, kind, addressed, written, rewritten⟩

theorem goneOver_run [JsonLibrary] [ZoneLibrary] (p : Pass) (t : Json) :
    GoneOver (· = p) t (p.run t).tree := by
  rcases Pass.run_cases p t with same | ⟨es, d, entries, data⟩
  · rw [same]
    exact .kept
  · rcases metaEntries?_eq_some.1 entries with ⟨ms, vs, rfl, array, rfl⟩
    have there : Members.get? ms "data" = some d := (present?_eq_some.1 data).1
    have kept (d' : Json) : Members.get? (Members.insert ms "data" d') "meta" = some (.arr vs) := by
      rw [Members.get?_insert_of_ne (by decide), array]
    rw [Pass.run_eq array data]
    refine .reworked rfl array data Members.get?_insert_self ?_ ?_ ?_
      (reworked_convertEntries p vs d)
    · rw [Members.get?_insert_of_ne (by decide), Members.get?_insert_self]
    · rw [Members.keys_insert_of_get? (kept _), Members.keys_insert_of_get? there]
    · intro k notMeta notData
      rw [Members.get?_insert_of_ne notMeta, Members.get?_insert_of_ne notData]

/-! ## Both passes -/

theorem GoneOver.mono (h : GoneOver on t t') (sub : ∀ p, on p → on' p) : GoneOver on' t t' := by
  cases h with
  | kept =>
      exact .kept
  | reworked object entries data entries' data' keys others result =>
      refine .reworked object entries data entries' data' keys others
        ⟨result.length, ?_, result.sameShape, ?_⟩
      · intro i v v' found found'
        rcases result.entry found found' with same | ⟨p, ms, ms', chosen, rewritten⟩
        · exact Or.inl same
        · exact Or.inr ⟨p, ms, ms', sub p chosen, rewritten⟩
      · intro l v there leaf
        rcases result.leaf there leaf with same | ⟨p, e, w, chosen, rewritten⟩
        · exact Or.inl same
        · exact Or.inr ⟨p, e, w, sub p chosen, rewritten⟩

/-- The pass for units leaves the entries for dates as they are. -/
theorem Reworked.mem_entriesOf (h : Reworked (· = .unit) vs vs' d d') {e : MetaEntry}
    (listed : e ∈ entriesOf vs') (kind : e.kind = .dateTime) : e ∈ entriesOf vs := by
  rcases RefFrame.mem_entriesOf.1 listed with ⟨i, v', found', rfl⟩
  have inside : i < vs.length := by
    rw [← h.length]
    exact (List.getElem?_eq_some_iff.1 found').1
  have found : vs[i]? = some vs[i] := List.getElem?_eq_getElem inside
  rcases h.entry found found' with same | ⟨p, ms, ms', rfl, -, rfl, rewritten⟩
  · rw [same]
    exact RefFrame.mem_entriesOf.2 ⟨i, vs[i], found, rfl⟩
  · rw [rewritten.kind_eq] at kind
    have unit : EntryKind.dateTime = EntryKind.unit := kind.symm.trans rewritten.kind
    cases unit

theorem Reworked.trans (h : Reworked (· = .unit) vs vs' d d')
    (h' : Reworked (· = .dateTime) vs' vs'' d' d'') : Reworked (fun _ => True) vs vs'' d d'' := by
  refine ⟨h'.length.trans h.length, ?_, h.sameShape.trans h'.sameShape, ?_⟩
  · intro i v v'' found found''
    have inside : i < vs'.length := by
      rw [← h'.length]
      exact (List.getElem?_eq_some_iff.1 found'').1
    have found' : vs'[i]? = some vs'[i] := List.getElem?_eq_getElem inside
    rcases h'.entry found' found'' with same | ⟨q, ns, ns', rfl, object, object', rewritten⟩
    · rcases h.entry found found' with same' | ⟨p, ms, ms', -, rewritten⟩
      · exact Or.inl (same.trans same')
      · rw [same]
        exact Or.inr ⟨p, ms, ms', trivial, rewritten⟩
    · -- What the second pass rewrites is an entry for dates, and no such entry came out of the first.
      have listed : MetaEntry.ofJson i vs'[i] ∈ entriesOf vs' :=
        RefFrame.mem_entriesOf.2 ⟨i, vs'[i], found', rfl⟩
      have kind : (MetaEntry.ofJson i vs'[i]).kind = .dateTime := by
        rw [object]
        exact rewritten.kind
      rcases RefFrame.mem_entriesOf.1 (h.mem_entriesOf listed kind) with ⟨j, u, there, same⟩
      rcases h.entry found found' with same' | ⟨p, ms, ms', rfl, -, object₁, rewritten₁⟩
      · rw [← same']
        exact Or.inr ⟨.dateTime, ns, ns', trivial, object, object', rewritten⟩
      · have unit : (MetaEntry.ofJson i vs'[i]).kind = .unit := by
          rw [object₁, rewritten₁.kind_eq]
          exact rewritten₁.kind
        rw [kind] at unit
        cases unit
  · intro l v there leaf
    rcases h.leaf there leaf with same | ⟨p, e, w, rfl, listed, kind, addressed, written, rewritten⟩
    · rcases h'.leaf same leaf with
        same' | ⟨q, e, w, rfl, listed, kind, addressed, written, rewritten⟩
      · exact Or.inl same'
      · refine Or.inr ⟨.dateTime, e, w, trivial, h.mem_entriesOf listed kind, kind, ?_, written,
          rewritten⟩
        exact (MetaEntry.addresses_iff_of_sameShape h.sameShape).2 addressed
    · -- A place that has become a float is passed over by the second pass.
      have final : d''.get? l = some w := by
        rcases h'.leaf written rewritten.isLeaf_right with
          same' | ⟨q, e', x, rfl, -, -, -, -, again⟩
        · exact same'
        · exact absurd again rewritten.not_unit_dateTime
      exact Or.inr ⟨.unit, e, w, trivial, listed, kind, addressed, final, rewritten⟩

theorem GoneOver.trans (h : GoneOver (· = .unit) t t') (h' : GoneOver (· = .dateTime) t' t'') :
    GoneOver (fun _ => True) t t'' := by
  cases h with
  | kept =>
      exact h'.mono fun _ _ => trivial
  | @reworked ms ms' vs vs' d d' object entries data entries' data' keys others result =>
      cases h' with
      | kept =>
          exact (GoneOver.reworked object entries data entries' data' keys others result).mono
            fun _ _ => trivial
      | @reworked ns ns' us us' c c' object₁ entries₁ data₁ entries₁' data₁' keys₁ others₁ result₁ =>
          cases object₁
          have sameData : d' = c := by
            have there : Members.get? ms' "data" = some c := (present?_eq_some.1 data₁).1
            simpa [data'] using there
          have sameEntries : vs' = us := by simpa [entries'] using entries₁
          subst sameData sameEntries
          refine .reworked object entries data entries₁' data₁' (keys₁.trans keys) ?_
            (result.trans result₁)
          intro k notMeta notData
          rw [others₁ k notMeta notData, others k notMeta notData]

section

variable [JsonLibrary] [ZoneLibrary]

theorem goneOver_normalize (r : Record) (passes : Passes) :
    GoneOver passes.Has r.tree (r.normalize passes).tree := by
  rcases passes with ⟨units, dates⟩
  cases units with
  | false =>
      cases dates with
      | false =>
          exact .kept
      | true =>
          refine (goneOver_run .dateTime r.tree).mono ?_
          rintro p rfl
          rfl
  | true =>
      cases dates with
      | false =>
          refine (goneOver_run .unit r.tree).mono ?_
          rintro p rfl
          rfl
      | true =>
          refine ((goneOver_run .unit r.tree).trans (goneOver_run .dateTime _)).mono ?_
          intro p _
          cases p <;> rfl

/-- Normalizing leaves all members but the entries and the data as they are. -/
theorem member?_normalize {k : String} (notMeta : k ≠ "meta") (notData : k ≠ "data") (r : Record)
    (passes : Passes) : (r.normalize passes).tree.member? k = r.tree.member? k := by
  have gone := goneOver_normalize r passes
  generalize (r.normalize passes).tree = t' at gone
  cases gone with
  | kept =>
      rfl
  | reworked object entries data entries' data' keys others result =>
      rw [object]
      exact others k notMeta notData

/-! ## The record as a tree -/

/-- Normalizing exchanges entries for rewritten ones, and leaves of the data that an entry addresses
for what its pass writes. All else in the record stays as it is. -/
theorem differs_normalize (r : Record) (unique : r.tree.UniqueKeys) (passes : Passes) :
    Differs (Record.Change passes r.tree) [] r.tree (r.normalize passes).tree := by
  rcases r with ⟨t, messages, status⟩
  generalize done : (Record.normalize ⟨t, messages, status⟩ passes).tree = t'
  have gone : GoneOver passes.Has t t' := done ▸ goneOver_normalize ⟨t, messages, status⟩ passes
  cases gone with
  | kept =>
      exact .same [] t
  | @reworked ms ms' vs vs' d d' object entries data entries' data' keys others result =>
      cases object
      have found : (Json.obj ms).metaEntries? = some (entriesOf vs) :=
        metaEntries?_eq_some.2 ⟨ms, vs, rfl, entries, rfl⟩
      have there : Members.get? ms "data" = some d := (present?_eq_some.1 data).1
      refine differs_of_keys unique.1 keys ?_
      intro k v v' old new
      by_cases isMeta : k = "meta"
      · -- The array of entries, one by one.
        subst isMeta
        obtain rfl : Json.arr vs = v := by simpa [entries] using old
        obtain rfl : Json.arr vs' = v' := by simpa [entries'] using new
        refine .arr result.length ?_
        intro i e e' atOld atNew
        rcases result.entry atOld atNew with rfl | ⟨p, ns, ns', chosen, rfl, rfl, rewritten⟩
        · exact .same _ _
        · exact .exchanged (.entry chosen rewritten)
      · by_cases isData : k = "data"
        · -- The data block, leaf by leaf.
          subst isData
          obtain rfl : d = v := by simpa [there] using old
          obtain rfl : d' = v' := by simpa [data'] using new
          have unique' : d.UniqueKeys :=
            uniqueKeysMembers_iff.1 unique.2 ("data", d) (Members.mem_of_get? there)
          refine differs_of_leaves _ unique' result.sameShape ?_
          intro l v atLeaf leaf
          rcases result.leaf atLeaf leaf with
            same | ⟨p, e, w, chosen, listed, kind, addressed, written, rewritten⟩
          · exact Or.inl same
          · exact Or.inr ⟨w, written, .leaf chosen found listed kind data addressed rewritten⟩
        · obtain rfl : v = v' := by
            rw [others k isMeta isData, old] at new
            simpa using new
          exact .same _ _

end

/-- A record in which one entry names one depth twice. -/
def repeatedName : Json :=
  .obj [("data", .obj [("MD", .num (.float 8.0))]),
    ("meta", .arr [.obj [("kind", .str "Unit"),
      ("persistableReference", .obj [("type", .str "USO"), ("scale", .num (.float 0.5)),
        ("baseMeasurement", .obj [("ancestry", .str "Length")])]),
      ("propertyNames", .arr [.str "MD", .str "MD"])]])]

open BuiltIn in
theorem differs_normalize_repeatedName :
    repeatedName.UniqueKeys ∧
      Differs (Record.Change ⟨true, true⟩ repeatedName) [] repeatedName
        ((Record.fresh repeatedName).normalize ⟨true, true⟩).tree := by
  have unique : repeatedName.UniqueKeys := by
    simp [repeatedName, UniqueKeys, UniqueKeysAll, UniqueKeysMembers, Members.keys]
  exact ⟨unique, differs_normalize (Record.fresh repeatedName) unique ⟨true, true⟩⟩

end RefFrame
