import RefFrame.Proofs.Record.Restore
import RefFrame.Record.Basic

/-!
# A pass over a record

`Pass.run_eq` says what a pass makes of a record with entries and data. Each entry of the pass's kind
has one turn; what happens to the data around that turn is the work of the other entries
(`Pass.altered_around`).
-/

namespace RefFrame

open Json Location

namespace Pass

variable {p : Pass} {ms : Members} {vs : List Json} {d t : Json}

theorem nodup_relabels [JsonLibrary] [ZoneLibrary] (p : Pass) (vs : List Json) (d : Json) :
    ((p.convertEntries (entriesOf vs) d).relabels.map Prod.fst).Nodup := by
  apply (sublist_relabels p (entriesOf vs) d).nodup
  rw [map_index_entriesOf]
  exact List.nodup_range

theorem exists_turn_of_lookup [JsonLibrary] [ZoneLibrary] {i : Nat} {r : Relabel}
    (h : (p.convertEntries (entriesOf vs) d).relabels.lookup i = some r) :
    ∃ v names c reached, vs[i]? = some v ∧ (MetaEntry.ofJson i v).kind = p.entryKind ∧
      c.relabel = r ∧ p.Turn reached (MetaEntry.ofJson i v) names c := by
  rcases List.lookup_eq_some_iff.1 h with ⟨rs, rs', listed, -⟩
  have mem : (i, r) ∈ (p.convertEntries (entriesOf vs) d).relabels := by
    simp [listed]
  rcases exists_turn_of_mem_relabels mem with
    ⟨before, e, after, names, c, split, index, label, turn⟩
  have kept : e ∈ entriesOf vs ∧ e.kind = p.entryKind := by
    have own : e ∈ before ++ e :: after := by simp
    rw [← split] at own
    simpa using own
  rcases mem_entriesOf.1 kept.1 with ⟨j, v, there, rfl⟩
  have same : j = i := index
  subst same
  exact ⟨v, names, c, _, there, kept.2, label, turn⟩

theorem ne_index_of_split {e e' : MetaEntry} {before after : List MetaEntry}
    (split : ((entriesOf vs).filter fun e => e.kind = p.entryKind) = before ++ e :: after)
    (mem : e' ∈ before ∨ e' ∈ after) :
    e' ∈ entriesOf vs ∧ e'.kind = p.entryKind ∧ e'.index ≠ e.index := by
  have listed : e' ∈ (entriesOf vs).filter fun e => e.kind = p.entryKind := by
    rw [split]
    rcases mem with mem | mem
    · exact List.mem_append_left _ mem
    · exact List.mem_append_right before (List.mem_cons_of_mem e mem)
  -- The indices of all entries are the numbers up to their count, each once.
  have nodup : ((before ++ e :: after).map MetaEntry.index).Nodup := by
    rw [← split]
    refine ((List.filter_sublist (l := entriesOf vs)).map MetaEntry.index).nodup ?_
    rw [map_index_entriesOf]
    exact List.nodup_range
  have kept : e' ∈ entriesOf vs ∧ e'.kind = p.entryKind := by simpa using listed
  refine ⟨kept.1, kept.2, ?_⟩
  intro same
  rw [List.map_append, List.map_cons, List.nodup_append] at nodup
  rcases mem with mem | mem
  · exact nodup.2.2 _ (List.mem_map_of_mem mem) _ List.mem_cons_self same
  · have fresh : e.index ∉ after.map MetaEntry.index := (List.nodup_cons.1 nodup.2.1).1
    exact fresh (same ▸ List.mem_map_of_mem mem)

/-- Some other entry of the pass's kind addresses the place. -/
def AddressedByOther (p : Pass) (vs : List Json) (e : MetaEntry) (d : Json) (l : Location) : Prop :=
  ∃ e' ∈ entriesOf vs, e'.kind = p.entryKind ∧ e'.index ≠ e.index ∧ e'.Addresses d l

section

variable [JsonLibrary] [ZoneLibrary]

/-- Up to the turn of an entry only what others address has been rewritten, and so it is afterwards. -/
theorem altered_around {e : MetaEntry} {before after : List MetaEntry}
    (split : ((entriesOf vs).filter fun e => e.kind = p.entryKind) = before ++ e :: after) :
    Altered p (p.AddressedByOther vs e d) d (before.foldl (convertEntry p) ⟨d, [], []⟩).data ∧
      Altered p (p.AddressedByOther vs e d)
        (p.convertEntry (before.foldl (convertEntry p) ⟨d, [], []⟩) e).data
        (p.convertEntries (entriesOf vs) d).data := by
  have first := altered_convertRow p ⟨d, [], []⟩ before
  have own := altered_convertEntry p (before.foldl (convertEntry p) ⟨d, [], []⟩) e
  have last := altered_convertRow p
    (p.convertEntry (before.foldl (convertEntry p) ⟨d, [], []⟩) e) after
  refine ⟨first.mono ?_, ?_⟩
  · rintro l ⟨e', mem, addressed⟩
    rcases ne_index_of_split split (Or.inl mem) with ⟨listed, kind, other⟩
    exact ⟨e', listed, kind, other, addressed⟩
  · have whole : (p.convertEntries (entriesOf vs) d).data =
        (after.foldl (convertEntry p)
          (p.convertEntry (before.foldl (convertEntry p) ⟨d, [], []⟩) e)).data := by
      rw [convertEntries, split, List.foldl_append, List.foldl_cons]
    rw [whole]
    refine last.mono ?_
    rintro l ⟨e', mem, addressed⟩
    rcases ne_index_of_split split (Or.inr mem) with ⟨listed, kind, other⟩
    -- The entries to come are told by what they address at the start, where the shape is the same.
    have shape := first.sameShape.trans own.sameShape
    exact ⟨e', listed, kind, other, (MetaEntry.addresses_iff_of_sameShape shape).2 addressed⟩

/-- A pass over a record with entries and data. -/
theorem run_eq (entries : ms.get? "meta" = some (.arr vs))
    (data : (obj ms).dataBlock? = some d) :
    p.run (obj ms) =
      ⟨obj ((ms.insert "data" (p.convertEntries (entriesOf vs) d).data).insert "meta"
          (.arr (vs.mapIdx (relabelled (p.convertEntries (entriesOf vs) d).relabels)))),
        (p.convertEntries (entriesOf vs) d).issues, true⟩ := by
  have found : (obj ms).metaEntries? = some (entriesOf vs) :=
    metaEntries?_eq_some.2 ⟨ms, vs, rfl, entries, rfl⟩
  have unfolded : p.run (obj ms) = p.convert (obj ms) (entriesOf vs) d := by
    cases p <;> simp [run, found, data]
  rw [unfolded, convert, Walk.restore_eq entries data (nodup_relabels p vs d)]

/-- The record that comes out of such a pass has entries and data again. -/
theorem exists_run (entries : ms.get? "meta" = some (.arr vs))
    (data : (obj ms).dataBlock? = some d) :
    ∃ ms' : Members,
      p.run (obj ms) = ⟨.obj ms', (p.convertEntries (entriesOf vs) d).issues, true⟩ ∧
        ms'.get? "meta" = some (.arr (vs.mapIdx (relabelled
          (p.convertEntries (entriesOf vs) d).relabels))) ∧
        (obj ms').dataBlock? = some (p.convertEntries (entriesOf vs) d).data := by
  refine ⟨_, run_eq entries data, Members.get?_insert_self, present?_eq_some.2 ⟨?_, ?_⟩⟩
  · rw [member?, Members.get?_insert_of_ne (by decide), Members.get?_insert_self]
  · exact (altered_convertEntries p (entriesOf vs) d).ne_null (present?_eq_some.1 data).2

theorem run_cases (p : Pass) (t : Json) :
    (p.run t).tree = t ∨ ∃ es d, t.metaEntries? = some es ∧ t.dataBlock? = some d := by
  cases entries : t.metaEntries? with
  | none =>
      cases data : t.dataBlock? <;> cases p <;> simp [run, entries, data]
  | some es =>
      cases data : t.dataBlock? with
      | none =>
          cases p <;> simp [run, entries, data]
      | some d =>
          exact Or.inr ⟨es, d, rfl, rfl⟩

/-- Without data a pass keeps the record and looks at nothing but whether there are entries. -/
theorem run_without_data {t' : Json} (p : Pass) (data : t.dataBlock? = none)
    (data' : t'.dataBlock? = none) (entries : t'.metaEntries?.isSome = t.metaEntries?.isSome) :
    p.run t' = ⟨t', (p.run t).issues, (p.run t).acted⟩ := by
  cases p with
  | dateTime =>
      simp [run, data, data']
  | unit =>
      cases found : t.metaEntries? <;> cases found' : t'.metaEntries? <;>
        simp [run, data, data', found, found'] at entries ⊢

/-- What the data of a record are after a pass that had something to convert. -/
theorem get?_run {es : List MetaEntry} (entries : t.metaEntries? = some es)
    (data : t.dataBlock? = some d) (l : Location) :
    (p.run t).tree.get? (.key "data" :: l) = (p.convertEntries es d).data.get? l := by
  rcases metaEntries?_eq_some.1 entries with ⟨ms, vs, rfl, array, rfl⟩
  rw [run_eq array data]
  simp only [get?_cons, child?, member?]
  rw [Members.get?_insert_of_ne (by decide), Members.get?_insert_self, Option.bind_some]

end

end Pass

/-- The same record with another tree. -/
def Record.withTree (r : Record) (t : Json) : Record :=
  { r with tree := t }

end RefFrame
