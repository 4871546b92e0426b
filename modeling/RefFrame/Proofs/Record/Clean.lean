import RefFrame.Proofs.Record.Run

/-!
# Runs without an issue

When no issue arises, every name of every entry addresses something, and every value that is addressed
has been replaced. `Progress.CleanRun` says so of the names of an entry, and `Pass.exists_finished`
of the entries of a pass that came out without an issue.
-/

namespace RefFrame

open Json Location

namespace Conversion

/-- The conversion may have written the value. -/
def Writes (c : Conversion) (w : Json) : Prop :=
  ∃ name v, c.judge name v = .replace w

theorem Writes.isLeaf {c : Conversion} {p : Pass} {w : Json} (h : c.Writes w) (sound : c.Sound p) :
    w.IsLeaf := by
  rcases h with ⟨name, v, verdict⟩
  exact (sound verdict).isLeaf_right

end Conversion

namespace Progress

variable {c : Conversion} {p : Progress} {name : String} {names : List String} {m : Match}
  {ms : List Match} {l : Location} {v w : Json}

/-! ## The matches of a name -/

theorem issues_of_convertMatches (h : (ms.foldl (convertMatch c name) p).issues = []) :
    p.issues = [] :=
  List.prefix_nil.1 (h ▸ issues_prefix_convertMatches c p name ms)

theorem clean_convertMatch (going : p.refused = false)
    (h : (p.convertMatch c name m).issues = []) :
    ∃ v, c.judge name m.value = .replace v ∧ p.convertMatch c name m = p.write m.location v := by
  rw [convertMatch_of_not_refused going] at h ⊢
  rcases carryOut_cases c name p m with ⟨v, verdict, done⟩ | ⟨-, done⟩ | ⟨i, -, done⟩
  · exact ⟨v, verdict, done⟩
  · simp [done, report] at h
  · simp [done, refuse, report] at h

theorem clean_convertMatches (going : p.refused = false)
    (h : (ms.foldl (convertMatch c name) p).issues = []) :
    (ms.foldl (convertMatch c name) p).refused = false ∧
      (ms ≠ [] ∨ p.converted = true → (ms.foldl (convertMatch c name) p).converted = true) ∧
        ∀ m ∈ ms, ∃ v, c.judge name m.value = .replace v := by
  induction ms generalizing p with
  | nil =>
      exact ⟨going, by simp, by simp⟩
  | cons m ms ih =>
      have first : (p.convertMatch c name m).issues = [] := issues_of_convertMatches h
      rcases clean_convertMatch going first with ⟨v, verdict, done⟩
      have going' : (p.convertMatch c name m).refused = false := by
        rw [done]
        exact going
      rcases ih going' h with ⟨final, converted, replaced⟩
      refine ⟨final, ?_, ?_⟩
      · intro _
        apply converted
        rw [done]
        exact Or.inr rfl
      · intro m' mem
        rcases List.mem_cons.1 mem with rfl | later
        · exact ⟨v, verdict⟩
        · exact replaced m' later

/-! ## One name -/

/-- A name that raises no issue addresses something, and all of it is replaced. -/
theorem clean_convertName (going : p.refused = false) (h : (p.convertName c name).issues = []) :
    (p.convertName c name).refused = false ∧ (p.convertName c name).converted = true ∧
      p.data.locationsOf name ≠ [] ∧
        ∀ l ∈ p.data.locationsOf name, ∃ w, (p.convertName c name).data.get? l = some w ∧
          c.Writes w := by
  rcases convertName_cases c p name with ⟨ended, -⟩ | ⟨-, done⟩ | ⟨some_found, done⟩
  · simp [isOver, going] at ended
  · simp [done, report] at h
  · rw [done] at h
    rcases clean_convertMatches going h with ⟨final, converted, replaced⟩
    refine ⟨by rw [done]; exact final, by rw [done]; exact converted (Or.inl some_found), ?_, ?_⟩
    · intro none_there
      exact some_found (List.map_eq_nil_iff.1 none_there)
    · intro l mem
      rcases List.mem_map.1 mem with ⟨m, found, rfl⟩
      rcases replaced m found with ⟨w, verdict⟩
      have written := (get?_convertMatches_of_mem (fresh_matchesOf p.data name) final found).1
      rw [done]
      exact ⟨w, by simpa [Conversion.turn, verdict] using written, name, m.value, verdict⟩

theorem clean_convertName_writes {q : Pass} (sound : c.Sound q) (going : p.refused = false)
    (h : (p.convertName c name).issues = []) (there : p.data.get? l = some w) (writes : c.Writes w) :
    ∃ w', (p.convertName c name).data.get? l = some w' ∧ c.Writes w' := by
  by_cases addressed : l ∈ p.data.locationsOf name
  · -- The name leads to the place once more.
    exact (clean_convertName going h).2.2.2 l addressed
  · exact ⟨w, (altered_convertName sound p name).get?_of_not there (writes.isLeaf sound) addressed,
      writes⟩

/-! ## The names of an entry -/

theorem issues_of_convertNames (h : (p.convertNames c names).issues = []) : p.issues = [] :=
  List.prefix_nil.1 (h ▸ issues_prefix_convertNames c p names)

theorem clean_convertNames_writes {q : Pass} (sound : c.Sound q) (going : p.refused = false)
    (h : (p.convertNames c names).issues = []) (there : p.data.get? l = some w)
    (writes : c.Writes w) :
    ∃ w', (p.convertNames c names).data.get? l = some w' ∧ c.Writes w' := by
  induction names generalizing p w with
  | nil =>
      exact ⟨w, there, writes⟩
  | cons name names ih =>
      have first : (p.convertName c name).issues = [] := issues_of_convertNames h
      rcases clean_convertName_writes sound going first there writes with ⟨w', there', writes'⟩
      exact ih (clean_convertName going first).1 h there' writes'

/-- What a run over the names of an entry comes to when it raises no issue. -/
structure CleanRun (c : Conversion) (names : List String) (d : Json) (q : Progress) : Prop where
  not_refused : q.refused = false
  converted : names ≠ [] → q.converted = true
  addressed : ∀ name ∈ names, d.locationsOf name ≠ []
  written : ∀ name ∈ names, ∀ l ∈ d.locationsOf name, ∃ w, q.data.get? l = some w ∧ c.Writes w

theorem converted_of_clean (going : p.refused = false)
    (h : (p.convertNames c names).issues = []) (converted : p.converted = true ∨ names ≠ []) :
    (p.convertNames c names).converted = true := by
  induction names generalizing p with
  | nil =>
      simpa [convertNames] using converted
  | cons name names ih =>
      have first : (p.convertName c name).issues = [] := issues_of_convertNames h
      rcases clean_convertName going first with ⟨going', converted', -⟩
      exact ih going' h (Or.inl converted')

theorem cleanRun_convertNames {q : Pass} (sound : c.Sound q) (going : p.refused = false)
    (h : (p.convertNames c names).issues = []) :
    CleanRun c names p.data (p.convertNames c names) := by
  induction names generalizing p with
  | nil =>
      exact ⟨going, by simp, by simp, by simp⟩
  | cons name names ih =>
      have first : (p.convertName c name).issues = [] := issues_of_convertNames h
      have shape := (altered_convertName sound p name).sameShape
      rcases clean_convertName going first with ⟨going', -, addressed, written⟩
      -- The other names have their run in the data that the first one leaves.
      have rest : CleanRun c names (p.convertName c name).data (p.convertNames c (name :: names)) :=
        ih going' h
      refine ⟨rest.not_refused, fun _ => converted_of_clean going h (Or.inr (by simp)), ?_, ?_⟩
      · intro name' mem
        rcases List.mem_cons.1 mem with rfl | later
        · exact addressed
        · rw [shape.locationsOf_eq]
          exact rest.addressed name' later
      · intro name' mem l at_l
        rcases List.mem_cons.1 mem with rfl | later
        · rcases written l at_l with ⟨w, there, writes⟩
          exact clean_convertNames_writes (p := p.convertName c name') sound going' h there writes
        · rw [shape.locationsOf_eq] at at_l
          exact rest.written name' later l at_l

end Progress

namespace Pass

variable {p : Pass} {w : Walk} {e : MetaEntry} {es : List MetaEntry} {d : Json} {vs : List Json}

/-! ## The entries of a pass -/

section

variable [JsonLibrary] [ZoneLibrary]

theorem issues_of_convertEntry (h : (p.convertEntry w e).issues = []) : w.issues = [] := by
  rcases convertEntry_cases p w e with ⟨i, -, done⟩ | ⟨names, c, -, -, done, -⟩
  · simp [done] at h
  · rw [done] at h
    exact (List.append_eq_nil_iff.1 h).1

theorem issues_of_convertRow (h : (es.foldl (convertEntry p) w).issues = []) : w.issues = [] := by
  induction es generalizing w with
  | nil =>
      exact h
  | cons e es ih =>
      exact issues_of_convertEntry (ih h)

theorem mem_relabels_of_mem {x : Nat × Relabel} (h : x ∈ w.relabels) :
    x ∈ (es.foldl (convertEntry p) w).relabels := by
  induction es generalizing w with
  | nil =>
      exact h
  | cons e es ih =>
      apply ih
      rcases convertEntry_cases p w e with
        ⟨i, -, done⟩ | ⟨names, c, -, -, -, ⟨done, -⟩ | ⟨done, -⟩⟩
      · rw [done]
        exact h
      · rw [done]
        exact h
      · rw [done]
        exact List.mem_append_left _ h

/-- An entry of the pass's kind in a pass without an issue: what its names address has been written
when its turn is over (`reached`), others may write afterwards, and with a name it is relabelled. -/
structure Finished (p : Pass) (vs : List Json) (d : Json) (i : Nat) (v : Json)
    (names : List String) (c : Conversion) (reached : Json) : Prop where
  planned : p.plan (MetaEntry.ofJson i v) = .ok (names, c)
  sameShape : SameShape d reached
  addressed : ∀ name ∈ names, reached.locationsOf name ≠ []
  written : ∀ name ∈ names, ∀ l ∈ reached.locationsOf name,
    ∃ w, reached.get? l = some w ∧ c.Writes w
  after : Altered p (p.AddressedByOther vs (MetaEntry.ofJson i v) d) reached
    (p.convertEntries (entriesOf vs) d).data
  labelled : relabelled (p.convertEntries (entriesOf vs) d).relabels i v =
    if names = [] then v else c.relabel.onEntry v

theorem relabelled_of_kind_ne {i : Nat} {v : Json} (found : vs[i]? = some v)
    (kind : (MetaEntry.ofJson i v).kind ≠ p.entryKind) :
    relabelled (p.convertEntries (entriesOf vs) d).relabels i v = v := by
  unfold relabelled
  cases labels : (p.convertEntries (entriesOf vs) d).relabels.lookup i with
  | none =>
      rfl
  | some r =>
      rcases exists_turn_of_lookup labels with ⟨u, -, -, -, there, kind', -⟩
      obtain rfl : u = v := by simpa [there] using found
      exact absurd kind' kind

/-- An entry that has been planned is relabelled as its plan says, or not at all. -/
theorem relabelled_of_plan {i : Nat} {v : Json} {names : List String} {c : Conversion}
    (found : vs[i]? = some v) (planned : p.plan (MetaEntry.ofJson i v) = .ok (names, c))
    (listed : names ≠ [] → (i, c.relabel) ∈ (p.convertEntries (entriesOf vs) d).relabels) :
    relabelled (p.convertEntries (entriesOf vs) d).relabels i v =
      if names = [] then v else c.relabel.onEntry v := by
  unfold relabelled
  cases labels : (p.convertEntries (entriesOf vs) d).relabels.lookup i with
  | none =>
      have unnamed : names = [] := by
        apply Classical.byContradiction
        intro named
        have absent := List.lookup_eq_none_iff.1 labels _ (listed named)
        simp at absent
      rw [if_pos unnamed]
  | some r =>
      rcases exists_turn_of_lookup labels with ⟨u, names', c', reached, there, -, rfl, turn⟩
      obtain rfl : u = v := by simpa [there] using found
      obtain ⟨rfl, rfl⟩ : names = names' ∧ c = c' := by
        simpa [planned] using turn.planned
      have named : names ≠ [] := by
        rintro rfl
        -- Without a name nothing is converted, and the entry is not relabelled.
        simpa [Progress.convertNames, Progress.start] using turn.converted
      rw [if_neg named]

/-- In a pass without an issue, each entry of its kind is finished. -/
theorem exists_finished {i : Nat} {v : Json}
    (h : (p.convertEntries (entriesOf vs) d).issues = []) (found : vs[i]? = some v)
    (kind : (MetaEntry.ofJson i v).kind = p.entryKind) :
    ∃ names c reached, p.Finished vs d i v names c reached := by
  have listed : MetaEntry.ofJson i v ∈ (entriesOf vs).filter fun e => e.kind = p.entryKind := by
    simp only [List.mem_filter, decide_eq_true_eq]
    exact ⟨mem_entriesOf.2 ⟨i, v, found, rfl⟩, kind⟩
  -- The entry has its turn between those before it and those after it.
  rcases List.append_of_mem listed with ⟨before, after, split⟩
  rcases altered_around (d := d) split with ⟨first, last⟩
  have whole : p.convertEntries (entriesOf vs) d = after.foldl (convertEntry p)
      (p.convertEntry (before.foldl (convertEntry p) ⟨d, [], []⟩) (MetaEntry.ofJson i v)) := by
    rw [convertEntries, split, List.foldl_append, List.foldl_cons]
  have own : (p.convertEntry (before.foldl (convertEntry p) ⟨d, [], []⟩)
      (MetaEntry.ofJson i v)).issues = [] := by
    rw [whole] at h
    exact issues_of_convertRow h
  generalize before.foldl (convertEntry p) ⟨d, [], []⟩ = w at first last whole own
  have step := altered_convertEntry p w (MetaEntry.ofJson i v)
  rcases convertEntry_cases p w (MetaEntry.ofJson i v) with
    ⟨fault, -, done⟩ | ⟨names, c, planned, data, issues, labels⟩
  · simp [done] at own
  · rw [issues] at own
    have clean : Progress.CleanRun c names w.data
        ((Progress.start w.data).convertNames c names) :=
      Progress.cleanRun_convertNames (p := Progress.start w.data) (sound_plan planned) rfl
        (List.append_eq_nil_iff.1 own).2
    refine ⟨names, c, _, planned, first.sameShape.trans step.sameShape, ?_, ?_, last, ?_⟩
    · intro name mem
      rw [← step.sameShape.locationsOf_eq]
      exact clean.addressed name mem
    · intro name mem l at_l
      rw [data]
      rw [← step.sameShape.locationsOf_eq] at at_l
      exact clean.written name mem l at_l
    · refine relabelled_of_plan found planned ?_
      intro named
      rw [whole]
      apply mem_relabels_of_mem
      rcases labels with ⟨-, noTurn⟩ | ⟨done, -⟩
      · -- A clean run with a name is all that a turn takes.
        exact absurd ⟨planned, clean.converted named, clean.not_refused⟩ noTurn
      · rw [done]
        exact List.mem_append_right _ (List.mem_singleton.2 rfl)

end

end Pass
end RefFrame
