import RefFrame.Proofs.Record.Clean

/-!
# Settled records

A record is settled for a pass when the pass would replace every value by itself and give every entry
the labels that it has. Running the pass then leaves the record as it is, without an issue
(`Pass.run_of_settled`).
-/

namespace RefFrame

open Json Location

namespace Progress

variable {c : Conversion} {p : Progress} {name : String} {names : List String} {m : Match}
  {ms : List Match}

/-! ## The names of an entry -/

/-- Everything that a name addresses is there, and is replaced by itself. -/
structure Keeps (c : Conversion) (d : Json) (name : String) : Prop where
  addressed : d.matchesOf name ≠ []
  same : ∀ m ∈ d.matchesOf name, c.judge name m.value = .replace m.value

theorem convertMatch_of_same (there : p.data.get? m.location = some m.value)
    (same : c.judge name m.value = .replace m.value) :
    (p.convertMatch c name m).data = p.data ∧ (p.convertMatch c name m).issues = p.issues := by
  by_cases ended : p.isOver c = true
  · rw [convertMatch_of_isOver ended]
    exact ⟨rfl, rfl⟩
  · have going : p.isOver c = false := by simpa using ended
    have unchanged : p.data.replace? m.location m.value = some p.data := replace?_eq_self there
    simp [convertMatch, going, carryOut, same, write, unchanged]

theorem convertMatches_of_same (there : ∀ m ∈ ms, p.data.get? m.location = some m.value)
    (same : ∀ m ∈ ms, c.judge name m.value = .replace m.value) :
    (ms.foldl (convertMatch c name) p).data = p.data ∧
      (ms.foldl (convertMatch c name) p).issues = p.issues := by
  induction ms generalizing p with
  | nil =>
      exact ⟨rfl, rfl⟩
  | cons m ms ih =>
      rcases convertMatch_of_same (there m List.mem_cons_self) (same m List.mem_cons_self) with
        ⟨data, issues⟩
      have there' : ∀ m' ∈ ms, (p.convertMatch c name m).data.get? m'.location = some m'.value := by
        intro m' mem
        rw [data]
        exact there m' (List.mem_cons_of_mem m mem)
      have rest := ih there' fun m' mem => same m' (List.mem_cons_of_mem m mem)
      constructor
      · calc
          (ms.foldl (convertMatch c name) (p.convertMatch c name m)).data =
              (p.convertMatch c name m).data := rest.1
          _ = p.data := data
      · calc
          (ms.foldl (convertMatch c name) (p.convertMatch c name m)).issues =
              (p.convertMatch c name m).issues := rest.2
          _ = p.issues := issues

theorem convertName_of_keeps (h : Keeps c p.data name) :
    (p.convertName c name).data = p.data ∧ (p.convertName c name).issues = p.issues := by
  rcases convertName_cases c p name with ⟨-, done⟩ | ⟨none_found, -⟩ | ⟨-, done⟩
  · rw [done]
    exact ⟨rfl, rfl⟩
  · exact absurd none_found h.addressed
  · rw [done]
    exact convertMatches_of_same (fresh_matchesOf p.data name).there h.same

theorem convertNames_of_keeps (h : ∀ name ∈ names, Keeps c p.data name) :
    (p.convertNames c names).data = p.data ∧ (p.convertNames c names).issues = p.issues := by
  induction names generalizing p with
  | nil =>
      exact ⟨rfl, rfl⟩
  | cons name names ih =>
      rcases convertName_of_keeps (h name List.mem_cons_self) with ⟨data, issues⟩
      -- The data are the same after the first name, so the other names find what they found.
      have rest := ih (p := p.convertName c name) fun name' mem => by
        rw [data]
        exact h name' (List.mem_cons_of_mem name mem)
      exact ⟨rest.1.trans data, rest.2.trans issues⟩

end Progress

namespace Pass

variable {p : Pass} {w : Walk} {e : MetaEntry} {es : List MetaEntry} {d : Json} {vs : List Json}
  {ms : Members} {i : Nat} {r : Relabel}

/-! ## The entries of a record -/

section

variable [JsonLibrary] [ZoneLibrary]

/-- The pass finds nothing to change at an element of the array of entries. -/
structure SettledEntry (p : Pass) (d : Json) (i : Nat) (v : Json) (names : List String)
    (c : Conversion) : Prop where
  planned : p.plan (MetaEntry.ofJson i v) = .ok (names, c)
  keeps : ∀ name ∈ names, Progress.Keeps c d name
  labelled : names ≠ [] → c.relabel.onEntry v = v

/-- The pass finds nothing to change. -/
def Settled (p : Pass) (vs : List Json) (d : Json) : Prop :=
  ∀ (i : Nat) (v : Json), vs[i]? = some v → (MetaEntry.ofJson i v).kind = p.entryKind →
    ∃ names c, p.SettledEntry d i v names c

/-- A finished entry is settled when its new reference asks for the labels that it has, and for a
conversion that keeps what has been written. -/
theorem settledEntry_of_finished {v reached d' : Json} {names : List String} {c c' : Conversion}
    (finished : p.Finished vs d i v names c reached) (sameShape : SameShape reached d')
    (again : p.conversion (.str c.relabel.reference) = .ok c') (label : c'.relabel = c.relabel)
    (same : ∀ name ∈ names, ∀ l ∈ reached.locationsOf name,
      ∃ w, d'.get? l = some w ∧ ∀ name', c'.judge name' w = .replace w) :
    ∃ names c, p.SettledEntry d' i
      (relabelled (p.convertEntries (entriesOf vs) d).relabels i v) names c := by
  rw [finished.labelled]
  by_cases named : names = []
  · -- Without a name the entry keeps its reference, and the old plan is the new one.
    subst named
    rw [if_pos rfl]
    exact ⟨[], c, finished.planned, by simp, by simp⟩
  · rw [if_neg named]
    refine ⟨names, c', ?_, ?_, ?_⟩
    · rcases plan_eq_ok.1 finished.planned with ⟨written, reference, field, -⟩
      refine plan_eq_ok.2 ⟨?_, _, Relabel.referenceField_onEntry field, again⟩
      rw [(Relabel.kind_names_onEntry v).2, written]
    · intro name mem
      constructor
      · intro none_found
        apply finished.addressed name mem
        rw [sameShape.locationsOf_eq, locationsOf, none_found, List.map_nil]
      · intro m found
        have at_l : m.location ∈ reached.locationsOf name := by
          rw [sameShape.locationsOf_eq]
          exact List.mem_map_of_mem found
        rcases same name mem m.location at_l with ⟨w, there, verdict⟩
        obtain rfl : m.value = w := by simpa [get?_of_mem_matchesOf found] using there
        exact verdict name
    · intro _
      rw [label]
      exact Relabel.onEntry_onEntry v

theorem convertEntry_of_keeps {names : List String} {c : Conversion}
    (planned : p.plan e = .ok (names, c)) (keeps : ∀ name ∈ names, Progress.Keeps c w.data name) :
    (p.convertEntry w e).data = w.data ∧ (p.convertEntry w e).issues = w.issues := by
  rcases Progress.convertNames_of_keeps (p := Progress.start w.data) keeps with ⟨data, issues⟩
  simp only [convertEntry, planned, data, issues]
  simp [Progress.start]

theorem convertRow_of_settled (h : p.Settled vs w.data)
    (listed : ∀ e ∈ es, e ∈ entriesOf vs ∧ e.kind = p.entryKind) :
    (es.foldl (convertEntry p) w).data = w.data ∧
      (es.foldl (convertEntry p) w).issues = w.issues := by
  induction es generalizing w with
  | nil =>
      exact ⟨rfl, rfl⟩
  | cons e es ih =>
      rcases listed e List.mem_cons_self with ⟨mem, kind⟩
      rcases mem_entriesOf.1 mem with ⟨i, v, found, rfl⟩
      rcases h i v found kind with ⟨names, c, settled⟩
      rcases convertEntry_of_keeps settled.planned settled.keeps with ⟨data, issues⟩
      have rest := ih (w := p.convertEntry w (MetaEntry.ofJson i v)) (by rw [data]; exact h)
        fun e' mem' => listed e' (List.mem_cons_of_mem _ mem')
      exact ⟨rest.1.trans data, rest.2.trans issues⟩

theorem convertEntries_of_settled (h : p.Settled vs d) :
    (p.convertEntries (entriesOf vs) d).data = d ∧
      (p.convertEntries (entriesOf vs) d).issues = [] :=
  convertRow_of_settled (w := ⟨d, [], []⟩) h fun e mem => by simpa using mem

theorem relabelled_of_settled (h : p.Settled vs d) {v : Json} (found : vs[i]? = some v) :
    relabelled (p.convertEntries (entriesOf vs) d).relabels i v = v := by
  unfold relabelled
  cases labels : (p.convertEntries (entriesOf vs) d).relabels.lookup i with
  | none =>
      rfl
  | some r =>
      rcases exists_turn_of_lookup labels with ⟨u, names, c, at_turn, there, kind, rfl, turn⟩
      obtain rfl : u = v := by simpa [there] using found
      rcases h i u there kind with ⟨names', c', settled⟩
      obtain ⟨rfl, rfl⟩ : names' = names ∧ c' = c := by
        simpa [settled.planned] using turn.planned
      apply settled.labelled
      rintro rfl
      -- Without a name nothing is converted, and the entry is not relabelled.
      simpa [Progress.convertNames, Progress.start] using turn.converted

/-- A pass over a settled record leaves it as it is. -/
theorem run_of_settled (entries : ms.get? "meta" = some (.arr vs))
    (data : (Json.obj ms).dataBlock? = some d) (h : p.Settled vs d) :
    p.run (.obj ms) = ⟨.obj ms, [], true⟩ := by
  have there : ms.get? "data" = some d := (present?_eq_some.1 data).1
  rcases convertEntries_of_settled h with ⟨same, issues⟩
  have array : vs.mapIdx (relabelled (p.convertEntries (entriesOf vs) d).relabels) = vs := by
    refine List.ext_getElem? ?_
    intro i
    rw [List.getElem?_mapIdx]
    cases found : vs[i]? with
    | none =>
        rfl
    | some v =>
        simp [relabelled_of_settled h found]
  rw [run_eq entries data, same, issues, array, Members.insert_eq_self there,
    Members.insert_eq_self entries]

end

end Pass
end RefFrame
