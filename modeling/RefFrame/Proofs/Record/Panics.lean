import RefFrame.Proofs.Record.Snapshot

/-!
# Panics on the way through a record

A pass panics as soon as it comes to a value of which it cannot even say what is wrong with it. Where that
is can be told entry by entry: the turn of an entry does not end if one of its issues panics
(`Record.turn?`), and then no later entry has a turn (`Record.run?_eq_foldlM`).

Only a pass for dates comes to such values (`Record.run?_unit`).
-/

namespace RefFrame

open Json Location

/-! ## Issues that panic -/

@[simp]
theorem Issue.panics_unknownZone {zone name : String} :
    (unknownZone zone name).panics = Zone.isTorn zone.toList := rfl

theorem Pass.issues_prefix_convertRow [JsonLibrary] [ZoneLibrary] {p : Pass} (w : Walk)
    (es : List MetaEntry) : w.issues <+: (es.foldl p.convertEntry w).issues := by
  induction es generalizing w with
  | nil =>
      exact List.prefix_rfl
  | cons e es ih =>
      have turn : w.issues <+: (p.convertEntry w e).issues := by
        unfold convertEntry
        split <;> exact List.prefix_append _ _
      exact turn.trans (ih _)

/-! ## Conversions that do not panic -/

/-- Whatever the conversion refuses, it can be said why. -/
def Conversion.Calm (c : Conversion) : Prop :=
  ∀ name v i, c.judge name v = .refuse i → i.panics = false

theorem Conversion.calm_ofUnit (u : UnitFrame) : (ofUnit u).Calm := by
  intro name v i refused
  simp only [ofUnit] at refused
  split at refused
  · cases refused
  · split at refused <;> cases refused
    rfl

namespace Progress

variable {c : Conversion} {p : Progress}

theorem calm_convertMatch (calm : c.Calm) (before : ∀ i ∈ p.issues, i.panics = false) (name : String)
    (m : Match) : ∀ i ∈ (p.convertMatch c name m).issues, i.panics = false := by
  by_cases ended : p.isOver c = true
  · rwa [convertMatch_of_isOver ended]
  · rw [convertMatch_of_not_isOver ended]
    rcases carryOut_cases c name p m with ⟨v, -, done⟩ | ⟨-, done⟩ | ⟨i, refused, done⟩ <;> rw [done]
    · exact before
    · exact List.forall_mem_append.2 ⟨before, by simp [Issue.panics]⟩
    · exact List.forall_mem_append.2 ⟨before, by simpa using calm name m.value i refused⟩

theorem calm_convertMatches (calm : c.Calm) (before : ∀ i ∈ p.issues, i.panics = false) (name : String)
    (ms : List Match) : ∀ i ∈ (ms.foldl (convertMatch c name) p).issues, i.panics = false := by
  induction ms generalizing p with
  | nil =>
      exact before
  | cons m ms ih =>
      exact ih (calm_convertMatch calm before name m)

theorem calm_convertNames (calm : c.Calm) (before : ∀ i ∈ p.issues, i.panics = false)
    (names : List String) : ∀ i ∈ (p.convertNames c names).issues, i.panics = false := by
  induction names generalizing p with
  | nil =>
      exact before
  | cons name names ih =>
      refine ih ?_
      rcases convertName_cases c p name with ⟨-, done⟩ | ⟨-, done⟩ | ⟨-, done⟩ <;> rw [done]
      · exact before
      · exact List.forall_mem_append.2 ⟨before, by simp [Issue.panics]⟩
      · exact calm_convertMatches calm before name _

end Progress

theorem Pass.panics_of_conversion_eq_error [JsonLibrary] [ZoneLibrary] {p : Pass} {reference : Json}
    {i : Issue} (h : p.conversion reference = .error i) : i.panics = false := by
  cases p with
  | unit =>
      simp only [conversion, Conversion.ofUnitReference] at h
      split at h <;> cases h
      rfl
  | dateTime =>
      simp only [conversion, Conversion.ofTimeReference] at h
      split at h <;> cases h
      rfl

/-- What is wrong with an entry itself can be reported. -/
theorem Pass.panics_of_plan_eq_error [JsonLibrary] [ZoneLibrary] {p : Pass} {e : MetaEntry} {i : Issue}
    (h : p.plan e = .error i) : i.panics = false := by
  simp only [plan, bind_error_iff, mapError_error_iff, mapError_ok_iff] at h
  rcases h with ⟨fault, -, rfl⟩ | ⟨names, -, ⟨fault, -, rfl⟩ | ⟨reference, -, asked⟩⟩
  · rfl
  · rfl
  · rcases asked with unasked | ⟨c, -, returned⟩
    · exact panics_of_conversion_eq_error unasked
    · cases returned

namespace Record

variable [JsonLibrary] [ZoneLibrary]

/-- The issues that the turn of an entry is to report. -/
def turnIssues (p : Pass) (r : Record) (e : MetaEntry) : List Issue :=
  match p.plan e, r.tree.dataBlock? with
  | .error i, _ => [i]
  | .ok (names, c), some d => ((Progress.start d).convertNames c names).issues
  | .ok _, none => []

/-- Deals with one entry, if that ends. -/
def turn? (p : Pass) (r : Record) (e : MetaEntry) : Option Record :=
  if (turnIssues p r e).any Issue.panics then none else some (workEntry p r e)

/-- In its course a pass really comes to an entry of its kind: no entry before it panics. -/
def Reaches (p : Pass) (r : Record) (e : MetaEntry) (here : Record) : Prop :=
  ∃ es before after, r.tree.metaEntries? = some es ∧ r.tree.dataBlock?.isSome = true ∧
    (es.filter fun e => e.kind = p.entryKind) = before ++ e :: after ∧
      before.foldlM (turn? p) r.markProcessed = some here

variable {p : Pass} {w : Pass.Walk} {r r' here : Record} {e : MetaEntry} {es : List MetaEntry}
  {ms : Members} {vs : List Json} {d : Json} {names : List String} {c : Conversion} {i : Issue}

theorem turn?_eq_some :
    turn? p r e = some r' ↔
      (turnIssues p r e).any Issue.panics = false ∧ workEntry p r e = r' := by
  unfold turn?
  cases (turnIssues p r e).any Issue.panics <;> simp

theorem turn?_eq_none :
    turn? p r e = none ↔ (turnIssues p r e).any Issue.panics = true := by
  simp [turn?]

/-- A row of entries that all come to their ends is worked off as always. -/
theorem foldl_of_foldlM_turn? (h : es.foldlM (turn? p) r = some r') :
    es.foldl (workEntry p) r = r' := by
  induction es generalizing r with
  | nil =>
      exact Option.some.inj h
  | cons e es ih =>
      rw [List.foldlM_cons] at h
      rcases Option.bind_eq_some_iff.1 h with ⟨next, first, rest⟩
      rw [List.foldl_cons, (turn?_eq_some.1 first).2]
      exact ih rest

theorem Reaches.visits (h : Reaches p r e here) : Visits p r e here := by
  rcases h with ⟨es, before, after, entries, data, split, row⟩
  exact ⟨es, before, after, entries, data, split, (foldl_of_foldlM_turn? row).symm⟩

/-! ## A pass, entry by entry -/

section

variable (tree : r.tree = .obj ms) (entries : ms.get? "meta" = some (.arr vs))
  (data : r.tree.dataBlock? = some d)

include tree entries data

theorem issues_convertEntry (present : w.data ≠ .null) :
    (p.convertEntry w e).issues = w.issues ++ turnIssues p (w.on r) e := by
  have block := Pass.Walk.dataBlock?_on (w := w) tree entries data present
  cases planned : p.plan e with
  | error i =>
      simp only [Pass.convertEntry, turnIssues, planned]
  | ok plan =>
      simp only [Pass.convertEntry, turnIssues, planned, block]

/-- A row of entries ends in a panic if one of all its issues panics. -/
theorem foldlM_turn?_on (present : w.data ≠ .null) (calm : w.issues.any Issue.panics = false) :
    es.foldlM (turn? p) (w.on r) =
      if (es.foldl (Pass.convertEntry p) w).issues.any Issue.panics then none
      else some ((es.foldl (Pass.convertEntry p) w).on r) := by
  induction es generalizing w with
  | nil =>
      simp [calm]
  | cons e es ih =>
      have turn := issues_convertEntry (p := p) (e := e) tree entries data present
      rw [List.foldlM_cons, List.foldl_cons]
      cases panics : (turnIssues p (w.on r) e).any Issue.panics with
      | true =>
          have stopped : turn? p (w.on r) e = none := turn?_eq_none.2 panics
          -- What has been found stays among the issues of the row.
          have found : (es.foldl (Pass.convertEntry p) (p.convertEntry w e)).issues.any
              Issue.panics = true := by
            rcases List.any_eq_true.1 panics with ⟨i, mem, panicking⟩
            have own : i ∈ (p.convertEntry w e).issues := turn ▸ List.mem_append_right _ mem
            exact List.any_eq_true.2 ⟨i, (Pass.issues_prefix_convertRow _ es).subset own, panicking⟩
          simp [stopped, found]
      | false =>
          have done : turn? p (w.on r) e = some ((p.convertEntry w e).on r) :=
            turn?_eq_some.2 ⟨panics, workEntry_on tree entries data present⟩
          rw [done, Option.bind_eq_bind, Option.bind_some]
          refine ih ((Pass.altered_convertEntry p w e).ne_null present) ?_
          simp [turn, calm, panics]

theorem run?_obj (listed : r.tree.metaEntries? = some es) :
    r.run? p = (es.filter fun e => e.kind = p.entryKind).foldlM (turn? p) r.markProcessed := by
  have outcome : p.run r.tree = p.convert r.tree es d := by
    cases p <;> simp [Pass.run, listed, data]
  -- A walk that has found nothing yet is on the record as it is.
  have start : (Pass.Walk.mk d [] []).on r.markProcessed = r.markProcessed :=
    start_on (r := r.markProcessed) tree entries data
  have row : (es.filter fun e => e.kind = p.entryKind).foldlM (turn? p)
      ((Pass.Walk.mk d [] []).on r.markProcessed) = _ :=
    foldlM_turn?_on (r := r.markProcessed) tree entries data (present?_eq_some.1 data).2 rfl
  rw [start] at row
  rw [row, run?, run, absorb_eq, outcome]
  rfl

end

/-- A pass over a record with data panics in the turn of the first entry that does, if there is one. -/
theorem run?_eq_foldlM (listed : r.tree.metaEntries? = some es)
    (data : r.tree.dataBlock?.isSome = true) :
    r.run? p = (es.filter fun e => e.kind = p.entryKind).foldlM (turn? p) r.markProcessed := by
  rcases Option.isSome_iff_exists.1 data with ⟨d, block⟩
  rcases metaEntries?_eq_some.1 listed with ⟨ms, vs, tree, entries, -⟩
  exact run?_obj tree entries block listed

/-- The pass gets to each of its entries, unless it panics. -/
theorem exists_reaches (entries : r.tree.metaEntries? = some es)
    (data : r.tree.dataBlock?.isSome = true) (listed : e ∈ es) (kind : e.kind = p.entryKind) :
    (∃ here, Reaches p r e here) ∨ r.run? p = none := by
  have own : e ∈ es.filter fun e => e.kind = p.entryKind := by simp [listed, kind]
  rcases List.append_of_mem own with ⟨before, after, split⟩
  cases row : before.foldlM (turn? p) r.markProcessed with
  | none =>
      right
      rw [run?_eq_foldlM entries data, split, List.foldlM_append, row]
      rfl
  | some here =>
      exact Or.inl ⟨here, es, before, after, entries, data, split, row⟩

/-- If the turn of an entry ends, the pass goes on with the entries behind it. -/
theorem exists_run?_of_reaches (entries : r.tree.metaEntries? = some es) (h : Reaches p r e here) :
    ∃ later, e :: later <:+ (es.filter fun e => e.kind = p.entryKind) ∧
      r.run? p = (turn? p here e).bind (later.foldlM (turn? p)) := by
  rcases h with ⟨es', before, after, entries', data, split, row⟩
  obtain rfl : es = es' := Option.some.inj (entries.symm.trans entries')
  refine ⟨after, ⟨before, split.symm⟩, ?_⟩
  rw [run?_eq_foldlM entries data, split, List.foldlM_append, row, Option.bind_eq_bind,
    Option.bind_some, List.foldlM_cons]
  rfl

/-! ## The turn of an entry -/

/-- An entry with something wrong about itself has its one issue added. -/
theorem turn?_of_plan_eq_error (faulty : p.plan e = .error i) :
    turn? p here e = some (here.addError i.message) := by
  refine turn?_eq_some.2 ⟨?_, workEntry_of_plan_eq_error faulty⟩
  simp [turnIssues, faulty, Pass.panics_of_plan_eq_error faulty]

/-- Where the places of an entry are apart, its items in the data before it tell its issues. -/
theorem turnIssues_of_plan (planned : p.plan e = .ok (names, c))
    (block : here.tree.dataBlock? = some d) (apart : (names.flatMap d.locationsOf).Pairwise Apart) :
    turnIssues p here e = c.issues (Item.ofNames d names) := by
  -- As the places are apart, no item finds what an earlier one has written.
  have folded := Progress.convertNames_eq_foldl (p := .start d) (Pass.sound_plan planned) apart
  rcases Progress.foldl_handle (c := c) (p := .start d) (Bool.and_false _) (Item.fresh_ofNames apart)
    with ⟨d', -, result⟩
  simp only [turnIssues, planned, block]
  rw [folded, result]
  rfl

/-- Under a conversion that does not panic the turn of an entry ends, whatever its names lead to. -/
theorem turn?_of_calm (planned : p.plan e = .ok (names, c)) (calm : c.Calm) :
    turn? p here e = some (workEntry p here e) := by
  refine turn?_eq_some.2 ⟨?_, rfl⟩
  rw [List.any_eq_false]
  intro i mem
  cases block : here.tree.dataBlock? with
  | none =>
      simp [turnIssues, planned, block] at mem
  | some d =>
      simp only [turnIssues, planned, block] at mem
      simp [Progress.calm_convertNames calm (by simp [Progress.start]) names i mem]

/-! ## Whole passes -/

/-- A row comes to its end if every turn does. -/
theorem isSome_foldlM_turn? (ends : ∀ here e, (turn? p here e).isSome = true) :
    (es.foldlM (turn? p) r).isSome = true := by
  induction es generalizing r with
  | nil =>
      rfl
  | cons e es ih =>
      rcases Option.isSome_iff_exists.1 (ends r e) with ⟨next, done⟩
      rw [List.foldlM_cons, done]
      exact ih

/-- A pass that comes to its end does what it always does. -/
theorem run_of_run? (h : r.run? p = some r') : r.run p = r' := by
  unfold run? at h
  split at h
  · cases h
  · exact Option.some.inj h

theorem isSome_turn?_unit (here : Record) (e : MetaEntry) : (turn? .unit here e).isSome = true := by
  cases planned : Pass.unit.plan e with
  | error i =>
      rw [turn?_of_plan_eq_error planned, Option.isSome_some]
  | ok plan =>
      rcases plan with ⟨names, c⟩
      rcases Pass.plan_eq_ok.1 planned with ⟨-, reference, -, asked⟩
      rcases Pass.conversion_unit_eq_ok.1 asked with ⟨u, -, rfl⟩
      rw [turn?_of_calm planned (Conversion.calm_ofUnit u), Option.isSome_some]

/-- The pass for units does not panic. -/
theorem run?_unit (r : Record) : r.run? .unit = some (r.run .unit) := by
  have ended : (r.run? .unit).isSome = true := by
    cases entries : r.tree.metaEntries? with
    | none =>
        simp [run?, Pass.run, entries, Outcome.panics]
    | some es =>
        cases data : r.tree.dataBlock? with
        | none =>
            simp [run?, Pass.run, entries, data, Outcome.panics]
        | some d =>
            rw [run?_eq_foldlM entries (by simp [data])]
            exact isSome_foldlM_turn? isSome_turn?_unit
  rcases Option.isSome_iff_exists.1 ended with ⟨r', done⟩
  rw [done, run_of_run? done]

/-- A record that does not panic is normalized as always. -/
theorem normalize_of_normalize? {passes : Passes} (h : r.normalize? passes = some r') :
    r.normalize passes = r' := by
  -- Either pass may be left out.
  have stage {on : Bool} {r r' : Record} {p : Pass}
      (h : (if on then r.run? p else some r) = some r') : (if on then r.run p else r) = r' := by
    cases on with
    | false =>
        exact Option.some.inj h
    | true =>
        exact run_of_run? h
  rcases Option.bind_eq_some_iff.1 h with ⟨next, first, second⟩
  rw [normalize, stage first]
  exact stage second

end Record
end RefFrame
