import RefFrame.Proofs.Record.Walk

/-!
# Putting a walk back into its record

`Pass.Walk.restore_eq` says what a record looks like after its data and its relabelled entries have
been put back: the data block is the new one, each entry of `meta` is relabelled if the walk says so,
and all other members are the old ones.
-/

namespace RefFrame

open Json Location

/-! ## One entry -/

namespace Relabel

variable {r : Relabel} {ms : Members} {k name : String} {i : Nat}

/-- An element of the array with its new labels. Only objects can be relabelled. -/
def onEntry (r : Relabel) : Json → Json
  | .obj ms => .obj (r.apply ms)
  | v => v

theorem get?_apply_of_ne (reference : k ≠ "persistableReference")
    (name : k ≠ "name" ∨ r.name = none) : (r.apply ms).get? k = ms.get? k := by
  cases named : r.name with
  | none =>
      simp [apply, named, Members.get?_insert_of_ne reference]
  | some s =>
      have other : k ≠ "name" := by simpa [named] using name
      simp [apply, named, Members.get?_insert_of_ne other, Members.get?_insert_of_ne reference]

theorem get?_apply_reference :
    (r.apply ms).get? "persistableReference" = some (.str r.reference) := by
  cases named : r.name with
  | none =>
      simp [apply, named, Members.get?_insert_self]
  | some s =>
      have other : "persistableReference" ≠ "name" := by decide
      simp [apply, named, Members.get?_insert_of_ne other, Members.get?_insert_self]

theorem get?_apply_name (h : r.name = some name) :
    (r.apply ms).get? "name" = some (.str name) := by
  simp [apply, h, Members.get?_insert_self]

theorem keys_apply (h : "persistableReference" ∈ ms.keys) :
    (r.apply ms).keys =
      if "name" ∈ ms.keys ∨ r.name = none then ms.keys else ms.keys ++ ["name"] := by
  have referenced : (Members.insert ms "persistableReference" (.str r.reference)).keys = ms.keys := by
    rw [Members.keys_insert, if_pos h]
  cases named : r.name with
  | none =>
      simp [apply, named, referenced]
  | some s =>
      simp [apply, named, Members.keys_insert, referenced]

theorem apply_eq_self (reference : ms.get? "persistableReference" = some (.str r.reference))
    (name : ∀ s, r.name = some s → ms.get? "name" = some (.str s)) : r.apply ms = ms := by
  cases named : r.name with
  | none =>
      simp [apply, named, Members.insert_eq_self reference]
  | some s =>
      simp [apply, named, Members.insert_eq_self reference, Members.insert_eq_self (name s named)]

theorem apply_apply : r.apply (r.apply ms) = r.apply ms :=
  apply_eq_self get?_apply_reference fun _ named => get?_apply_name named

theorem onEntry_onEntry (v : Json) : r.onEntry (r.onEntry v) = r.onEntry v := by
  cases v with
  | obj ms =>
      simp only [onEntry, apply_apply]
  | _ =>
      rfl

/-- A relabelled entry is of the kind that it was of, and has the names that it had. -/
theorem kind_names_onEntry (v : Json) :
    (MetaEntry.ofJson i (r.onEntry v)).kind = (MetaEntry.ofJson i v).kind ∧
      (MetaEntry.ofJson i (r.onEntry v)).names = (MetaEntry.ofJson i v).names := by
  cases v with
  | obj ms =>
      have kind : (r.apply ms).get? "kind" = Members.get? ms "kind" :=
        get?_apply_of_ne (by decide) (Or.inl (by decide))
      have names : (r.apply ms).get? "propertyNames" = Members.get? ms "propertyNames" :=
        get?_apply_of_ne (by decide) (Or.inl (by decide))
      simp [MetaEntry.ofJson, MetaEntry.names, onEntry, present?, member?, kind, names]
  | _ =>
      exact ⟨rfl, rfl⟩

theorem referenceField_onEntry {v reference : Json}
    (h : (MetaEntry.ofJson i v).referenceField = some reference) :
    (MetaEntry.ofJson i (r.onEntry v)).referenceField = some (.str r.reference) := by
  cases v with
  | obj ms =>
      simp [MetaEntry.ofJson, onEntry, present?, member?, get?_apply_reference]
  | _ =>
      cases h

end Relabel

/-! ## All entries -/

/-- An element of the array, relabelled if its index is among the relabelled ones. -/
def relabelled (rs : List (Nat × Relabel)) (i : Nat) (v : Json) : Json :=
  match rs.lookup i with
  | some r => r.onEntry v
  | none => v

theorem kind_relabelled (rs : List (Nat × Relabel)) (i : Nat) (v : Json) :
    (MetaEntry.ofJson i (relabelled rs i v)).kind = (MetaEntry.ofJson i v).kind := by
  unfold relabelled
  cases rs.lookup i with
  | none =>
      rfl
  | some r =>
      exact (Relabel.kind_names_onEntry v).1

theorem names_relabelled (rs : List (Nat × Relabel)) (i : Nat) (v : Json) :
    (MetaEntry.ofJson i (relabelled rs i v)).names = (MetaEntry.ofJson i v).names := by
  unfold relabelled
  cases rs.lookup i with
  | none =>
      rfl
  | some r =>
      exact (Relabel.kind_names_onEntry v).2

/-- When no index comes twice, relabelling one after the other is relabelling each by itself. -/
theorem foldl_modify_eq_mapIdx {rs : List (Nat × Relabel)} (h : (rs.map Prod.fst).Nodup)
    (vs : List Json) :
    rs.foldl (fun vs r => vs.modify r.1 r.2.onEntry) vs = vs.mapIdx (relabelled rs) := by
  induction rs generalizing vs with
  | nil =>
      refine List.ext_getElem? ?_
      intro j
      rw [List.getElem?_mapIdx]
      cases found : vs[j]? <;> simp [relabelled, found]
  | cons r rs ih =>
      rcases r with ⟨i, r⟩
      have head : i ∉ rs.map Prod.fst := (List.nodup_cons.1 h).1
      rw [List.foldl_cons, ih (List.nodup_cons.1 h).2]
      refine List.ext_getElem? ?_
      intro j
      rw [List.getElem?_mapIdx, List.getElem?_mapIdx, List.getElem?_modify]
      by_cases same : i = j
      · -- The element just relabelled is not relabelled again.
        subst same
        have absent : rs.lookup i = none := by
          rw [List.lookup_eq_none_iff]
          intro p mem
          simpa using fun e : i = p.1 => head (e ▸ List.mem_map_of_mem mem)
        cases vs[i]? <;> simp [relabelled, absent]
      · have other : (j == i) = false := beq_false_of_ne fun e => same e.symm
        cases vs[j]? <;> simp [relabelled, List.lookup_cons, same, other]

/-- The entries that an array holds. -/
def entriesOf (vs : List Json) : List MetaEntry :=
  vs.zipIdx.map fun x => MetaEntry.ofJson x.2 x.1

theorem mem_entriesOf {vs : List Json} {e : MetaEntry} :
    e ∈ entriesOf vs ↔ ∃ (i : Nat) (v : Json), vs[i]? = some v ∧ MetaEntry.ofJson i v = e := by
  constructor
  · intro h
    rcases List.mem_map.1 h with ⟨⟨v, i⟩, mem, rfl⟩
    exact ⟨i, v, List.mem_zipIdx_iff_getElem?.1 mem, rfl⟩
  · rintro ⟨i, v, found, rfl⟩
    exact List.mem_map.2 ⟨(v, i), List.mem_zipIdx_iff_getElem?.2 found, rfl⟩

theorem map_index_entriesOf (vs : List Json) :
    (entriesOf vs).map MetaEntry.index = List.range vs.length := by
  simp [entriesOf, Function.comp_def, MetaEntry.ofJson, List.range_eq_range']

theorem eq_of_index_eq {vs : List Json} {e e' : MetaEntry} (h : e ∈ entriesOf vs)
    (h' : e' ∈ entriesOf vs) (same : e.index = e'.index) : e = e' := by
  rcases mem_entriesOf.1 h with ⟨i, v, found, rfl⟩
  rcases mem_entriesOf.1 h' with ⟨i', v', found', rfl⟩
  have index : i = i' := same
  subst index
  have value : v = v' := by simpa [found] using found'
  rw [value]

/-! ## The record -/

theorem metaEntries?_eq_some {t : Json} {es : List MetaEntry} :
    t.metaEntries? = some es ↔
      ∃ ms vs, t = .obj ms ∧ Members.get? ms "meta" = some (.arr vs) ∧ es = entriesOf vs := by
  constructor
  · intro h
    cases t with
    | obj ms =>
        simp only [metaEntries?, member?] at h
        split at h
        · rename_i vs found
          exact ⟨ms, vs, rfl, found, by simpa [entriesOf] using h.symm⟩
        · cases h
    | _ =>
        simp [metaEntries?, member?] at h
  · rintro ⟨ms, vs, rfl, found, rfl⟩
    simp [metaEntries?, member?, found, entriesOf]

theorem modify_of_fixed {vs : List Json} {i : Nat} {f : Json → Json}
    (h : ∀ v, vs[i]? = some v → f v = v) : vs.modify i f = vs := by
  refine List.ext_getElem? ?_
  intro j
  rw [List.getElem?_modify]
  by_cases same : i = j
  · subst same
    cases found : vs[i]? with
    | none =>
        rfl
    | some v =>
        simp [h v found]
  · simp [same]

theorem modify_of_getElem? {vs : List Json} {i : Nat} {f : Json → Json} {v : Json}
    (h : vs[i]? = some v) : vs.modify i f = vs.set i (f v) := by
  refine List.ext_getElem? ?_
  intro j
  rw [List.getElem?_modify, List.getElem?_set]
  by_cases same : i = j
  · subst same
    have inside : i < vs.length := (List.getElem?_eq_some_iff.1 h).1
    rw [h]
    simp [inside]
  · simp [same]

theorem get?_entryLocation {ms : Members} {vs : List Json} (h : ms.get? "meta" = some (.arr vs))
    (i : Nat) : (obj ms).get? (entryLocation i) = vs[i]? := by
  simp [entryLocation, get?_cons, child?, member?, element?, h]

theorem relabelEntry?_getD {ms : Members} {vs : List Json} (h : ms.get? "meta" = some (.arr vs))
    (i : Nat) (r : Relabel) :
    (Json.relabelEntry? (obj ms) i r).getD (obj ms) =
      obj (ms.insert "meta" (.arr (vs.modify i r.onEntry))) := by
  have reads : (obj ms).get? (entryLocation i) = vs[i]? := get?_entryLocation h i
  cases found : vs[i]? with
  | none =>
      -- There is no such entry, and nothing to modify.
      have unchanged : vs.modify i r.onEntry = vs := by
        apply modify_of_fixed
        simp [found]
      simp only [reads, relabelEntry?, found, unchanged, Members.insert_eq_self h, Option.getD_none]
  | some v =>
      cases v with
      | obj es =>
          have written : (obj ms).replace? (entryLocation i) (obj (r.apply es)) =
              some (obj (ms.insert "meta" (.arr (vs.set i (obj (r.apply es)))))) := by
            simp [entryLocation, replace?_cons, child?, member?, element?, h, found, setChild]
          simp only [reads, relabelEntry?, found, written, modify_of_getElem? found,
            Relabel.onEntry, Option.getD_some]
      | _ =>
          -- What is no object stays.
          have unchanged : vs.modify i r.onEntry = vs := by
            apply modify_of_fixed
            simp [found, Relabel.onEntry]
          simp only [reads, relabelEntry?, found, unchanged, Members.insert_eq_self h,
            Option.getD_none]

theorem foldl_relabelEntry? {ms : Members} {vs : List Json} (h : ms.get? "meta" = some (.arr vs))
    (rs : List (Nat × Relabel)) :
    rs.foldl (fun t r => (t.relabelEntry? r.1 r.2).getD t) (obj ms) =
      obj (ms.insert "meta" (.arr (rs.foldl (fun vs r => vs.modify r.1 r.2.onEntry) vs))) := by
  induction rs generalizing ms vs with
  | nil =>
      simp [Members.insert_eq_self h]
  | cons r rs ih =>
      rw [List.foldl_cons, relabelEntry?_getD h, ih Members.get?_insert_self,
        Members.insert_insert, List.foldl_cons]

namespace Pass.Walk

/-- Putting a walk back: the data go in first and leave the entries where they are, then the entries
are relabelled one after the other. -/
theorem restore_obj {w : Walk} {ms : Members} {vs : List Json} {d : Json}
    (entries : ms.get? "meta" = some (.arr vs)) (data : (obj ms).dataBlock? = some d) :
    w.restore (obj ms) =
      obj ((ms.insert "data" w.data).insert "meta"
        (.arr (w.relabels.foldl (fun vs r => vs.modify r.1 r.2.onEntry) vs))) := by
  have there : ms.get? "data" = some d := (present?_eq_some.1 data).1
  have replaced : ((obj ms).replaceData? w.data).getD (obj ms) =
      obj (ms.insert "data" w.data) := by
    simp [replaceData?, data, replace?_cons, child?, member?, there, setChild]
  have kept : (ms.insert "data" w.data).get? "meta" = some (.arr vs) := by
    rw [Members.get?_insert_of_ne (by decide), entries]
  rw [restore, replaced]
  exact foldl_relabelEntry? kept w.relabels

theorem restore_eq {w : Walk} {ms : Members} {vs : List Json} {d : Json}
    (entries : ms.get? "meta" = some (.arr vs)) (data : (obj ms).dataBlock? = some d)
    (nodup : (w.relabels.map Prod.fst).Nodup) :
    w.restore (obj ms) =
      obj ((ms.insert "data" w.data).insert "meta" (.arr (vs.mapIdx (relabelled w.relabels)))) := by
  rw [restore_obj entries data, foldl_modify_eq_mapIdx nodup]

end Pass.Walk
end RefFrame
