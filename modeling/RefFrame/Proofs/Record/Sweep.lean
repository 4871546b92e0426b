import RefFrame.Proofs.Record.Run

/-!
# A pass as a sweep over the entries

A pass can be told without indices: it goes through the array of entries, hands the data on from one
entry to the next, and leaves each entry with its labels behind. `Pass.sweep` does so by recursion on
the array, and `Pass.run_eq_sweep` says that the record comes out the same.
-/

namespace RefFrame

open Json Location

namespace Pass

/-- What becomes of one entry in its turn, and what it leaves behind for the others. -/
structure Dealt where
  entry : Json
  data : Json
  issues : List Issue

/-- Deals with one element of the array of entries. -/
def deal [JsonLibrary] [ZoneLibrary] (p : Pass) (v d : Json) : Dealt :=
  if (MetaEntry.ofJson 0 v).kind = p.entryKind then
    match p.plan (MetaEntry.ofJson 0 v) with
    | .error i => ⟨v, d, [i]⟩
    | .ok (names, c) =>
      let done := (Progress.start d).convertNames c names
      ⟨((done.relabel? c).map fun r => r.onEntry v).getD v, done.data, done.issues⟩
  else ⟨v, d, []⟩

/-- What becomes of all entries and of the data. -/
structure Swept where
  entries : List Json
  data : Json
  issues : List Issue

/-- Deals with the elements of the array one after the other. -/
def sweep [JsonLibrary] [ZoneLibrary] (p : Pass) : List Json → Json → Swept
  | [], d => ⟨[], d, []⟩
  | v :: vs, d =>
    let own := p.deal v d
    let rest := sweep p vs own.data
    ⟨own.entry :: rest.entries, rest.data, own.issues ++ rest.issues⟩

variable {p : Pass} {v d : Json} {vs : List Json} {n : Nat} {names : List String} {c : Conversion}

/-! ## One entry -/

section

variable [JsonLibrary] [ZoneLibrary]

theorem deal_of_kind_ne (h : (MetaEntry.ofJson 0 v).kind ≠ p.entryKind) :
    p.deal v d = ⟨v, d, []⟩ := by
  rw [deal, if_neg h]

theorem deal_of_error {i : Issue} (kind : (MetaEntry.ofJson 0 v).kind = p.entryKind)
    (h : p.plan (MetaEntry.ofJson 0 v) = .error i) : p.deal v d = ⟨v, d, [i]⟩ := by
  rw [deal, if_pos kind, h]

theorem deal_of_plan (kind : (MetaEntry.ofJson 0 v).kind = p.entryKind)
    (h : p.plan (MetaEntry.ofJson 0 v) = .ok (names, c)) :
    p.deal v d =
      ⟨((((Progress.start d).convertNames c names).relabel? c).map fun r => r.onEntry v).getD v,
        ((Progress.start d).convertNames c names).data,
        ((Progress.start d).convertNames c names).issues⟩ := by
  rw [deal, if_pos kind, h]

end

/-! ## Labels by their indices -/

theorem lookup_eq_none {rs : List (Nat × Relabel)} (h : ∀ x ∈ rs, x.1 ≠ n) : rs.lookup n = none := by
  rw [List.lookup_eq_none_iff]
  intro x mem
  simpa using (h x mem).symm

theorem relabelled_append_left {rs rs' : List (Nat × Relabel)} (h : ∀ x ∈ rs', x.1 ≠ n) :
    relabelled (rs ++ rs') n v = relabelled rs n v := by
  simp [relabelled, List.lookup_append, lookup_eq_none h]

theorem relabelled_append_right {rs rs' : List (Nat × Relabel)} (h : ∀ x ∈ rs, x.1 ≠ n) :
    relabelled (rs ++ rs') n v = relabelled rs' n v := by
  simp [relabelled, List.lookup_append, lookup_eq_none h]

/-! ## The walk and the sweep -/

/-- The walk over a row of entries, of which only those of the pass's kind have a turn. -/
def walk [JsonLibrary] [ZoneLibrary] (p : Pass) (es : List MetaEntry) (w : Walk) : Walk :=
  (es.filter fun e => e.kind = p.entryKind).foldl (convertEntry p) w

/-- The turn of one entry, with the index that it has in the array. -/
theorem walk_singleton [JsonLibrary] [ZoneLibrary] (p : Pass) (n : Nat) (v : Json) (w : Walk) :
    ∃ rs, p.walk [MetaEntry.ofJson n v] w =
        ⟨(p.deal v w.data).data, w.issues ++ (p.deal v w.data).issues, w.relabels ++ rs⟩ ∧
      (∀ x ∈ rs, x.1 = n) ∧ (p.deal v w.data).entry = relabelled rs n v := by
  have kinds : (MetaEntry.ofJson n v).kind = (MetaEntry.ofJson 0 v).kind := rfl
  by_cases kind : (MetaEntry.ofJson 0 v).kind = p.entryKind
  · have turn : p.walk [MetaEntry.ofJson n v] w = p.convertEntry w (MetaEntry.ofJson n v) := by
      simp [walk, kinds, kind]
    have plans : p.plan (MetaEntry.ofJson n v) = p.plan (MetaEntry.ofJson 0 v) := rfl
    rw [turn, convertEntry, plans]
    cases planned : p.plan (MetaEntry.ofJson 0 v) with
    | error i =>
        rw [deal_of_error kind planned]
        exact ⟨[], by simp, by simp, rfl⟩
    | ok plan =>
        rcases plan with ⟨names, c⟩
        rw [deal_of_plan kind planned]
        have index : (MetaEntry.ofJson n v).index = n := rfl
        refine ⟨_, rfl, ?_⟩
        cases ((Progress.start w.data).convertNames c names).relabel? c <;>
          simp [relabelled, index]
  · have passed : p.walk [MetaEntry.ofJson n v] w = w := by
      simp [walk, kinds, kind]
    rw [passed, deal_of_kind_ne kind]
    exact ⟨[], by simp, by simp, rfl⟩

/-- The elements of an array as entries, the first of them with a given index. -/
def entriesFrom (n : Nat) (vs : List Json) : List MetaEntry :=
  (vs.zipIdx n).map fun x => MetaEntry.ofJson x.2 x.1

section

variable [JsonLibrary] [ZoneLibrary]

/-- The walk over the elements from some index on does what the sweep does, and the labels that it
collects are those that the sweep has left at the elements. -/
theorem walk_eq_sweep (p : Pass) (n : Nat) (vs : List Json) (w : Walk) :
    ∃ rs, p.walk (entriesFrom n vs) w =
        ⟨(p.sweep vs w.data).data, w.issues ++ (p.sweep vs w.data).issues, w.relabels ++ rs⟩ ∧
      (∀ x ∈ rs, n ≤ x.1) ∧
      (p.sweep vs w.data).entries = vs.mapIdx fun i v => relabelled rs (n + i) v := by
  induction vs generalizing n w with
  | nil =>
      exact ⟨[], by simp [walk, entriesFrom, sweep], by simp, rfl⟩
  | cons v vs ih =>
      have split : p.walk (entriesFrom n (v :: vs)) w =
          p.walk (entriesFrom (n + 1) vs) (p.walk [MetaEntry.ofJson n v] w) := by
        have row : entriesFrom n (v :: vs) = [MetaEntry.ofJson n v] ++ entriesFrom (n + 1) vs := by
          simp [entriesFrom, List.zipIdx_cons]
        rw [row, walk, List.filter_append, List.foldl_append]
        rfl
      rcases walk_singleton p n v w with ⟨own, first, own_index, own_label⟩
      rw [split, first]
      rcases ih (n + 1) ⟨(p.deal v w.data).data, w.issues ++ (p.deal v w.data).issues,
        w.relabels ++ own⟩ with ⟨rs, done, later, entries⟩
      refine ⟨own ++ rs, ?_, ?_, ?_⟩
      · rw [done]
        simp [sweep]
      · intro x mem
        rcases List.mem_append.1 mem with mem | mem
        · exact Nat.le_of_eq (own_index x mem).symm
        · exact Nat.le_of_succ_le (later x mem)
      · -- The own label is looked up at the own index, those of the others at later ones.
        have head : relabelled (own ++ rs) n v = relabelled own n v :=
          relabelled_append_left fun x mem => Nat.ne_of_gt (later x mem)
        have tail (i : Nat) (u : Json) :
            relabelled (own ++ rs) (n + (i + 1)) u = relabelled rs (n + 1 + i) u := by
          rw [Nat.add_assoc n 1 i, Nat.add_comm 1 i]
          apply relabelled_append_right
          intro x mem
          rw [own_index x mem]
          omega
        simp only [sweep, List.mapIdx_cons, Nat.add_zero, head, own_label, entries, tail]

/-- A pass over a record with entries and data, as a sweep. -/
theorem run_eq_sweep {ms : Members} (entries : ms.get? "meta" = some (.arr vs))
    (data : (obj ms).dataBlock? = some d) :
    p.run (obj ms) =
      ⟨obj ((ms.insert "data" (p.sweep vs d).data).insert "meta" (.arr (p.sweep vs d).entries)),
        (p.sweep vs d).issues, true⟩ := by
  rcases walk_eq_sweep p 0 vs ⟨d, [], []⟩ with ⟨rs, done, -, swept⟩
  have walked : p.convertEntries (entriesOf vs) d =
      ⟨(p.sweep vs d).data, (p.sweep vs d).issues, rs⟩ := by
    simpa [walk, convertEntries, entriesFrom, entriesOf] using done
  rw [run_eq entries data, walked, swept]
  simp

/-- The same when other entries have been put in the place of those that the record had. -/
theorem run_insert_eq_sweep {ms : Members} {vs' : List Json}
    (entries : ms.get? "meta" = some (.arr vs)) (data : (obj ms).dataBlock? = some d) :
    p.run (obj (ms.insert "meta" (.arr vs'))) =
      ⟨obj ((ms.insert "data" (p.sweep vs' d).data).insert "meta" (.arr (p.sweep vs' d).entries)),
        (p.sweep vs' d).issues, true⟩ := by
  have data' : (obj (ms.insert "meta" (.arr vs'))).dataBlock? = some d := by
    rw [← data]
    simp [dataBlock?, present?, member?, Members.get?_insert_of_ne]
  rw [run_eq_sweep Members.get?_insert_self data', Members.insert_comm (by decide)
    (Members.mem_keys_of_get? entries), Members.insert_insert]

end

end Pass
end RefFrame
