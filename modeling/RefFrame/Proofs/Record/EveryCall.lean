import RefFrame.Json.Exact
import RefFrame.Proofs.Record.Calls
import RefFrame.Proofs.Record.Confinement

/-!
# Every call of a pass finds what it is to change

The calls of a pass (`Record.calls`) are made at places and indices that were looked up before: the
matches of a name before the first of them is written, the entries before anything is. They are all
still there when their turn comes, since no call takes a container or a key away.

So the calls lead from the record to what the pass makes of it (`Record.leads_calls`), an entry counts as
converted exactly when one of its values has been replaced, and when it is due to be relabelled it is
relabelled, at the index it was read from.
-/

namespace RefFrame

open Json Location

/-! ## The calls for an entry -/

namespace Handling

variable {c : Conversion} {h : Handling} {name : String} {names : List String} {m : Match}

/-- The flag `converted` is set by writing, and by nothing else. -/
theorem converted_handleMatch :
    (h.handleMatch c name m).converted = true ↔
      h.converted = true ∨ ∃ l v, Call.write l v ∈ h.matchCalls c name m := by
  by_cases ended : h.isOver c = true
  · simp [handleMatch, matchCalls, ended]
  · simp only [handleMatch, matchCalls, ended, Bool.false_eq_true, if_false]
    cases c.judge name m.value with
    | replace v =>
        cases data : h.record.tree.dataBlock? <;> simp [write, data]
    | missing =>
        simp [report]
    | refuse i =>
        simp [report]

theorem converted_handleName :
    (h.handleName c name).converted = true ↔
      h.converted = true ∨ ∃ l v, Call.write l v ∈ h.nameCalls c name := by
  by_cases ended : h.isOver c = true
  · simp [handleName, nameCalls, ended]
  · simp only [handleName, nameCalls, ended, Bool.false_eq_true, if_false]
    cases h.matchesOf name with
    | nil =>
        simp [report]
    | cons m ms =>
        exact Call.flag_along fun _ _ => converted_handleMatch

theorem converted_handleNames :
    (names.foldl (handleName c) h).converted = true ↔
      h.converted = true ∨ ∃ l v, Call.write l v ∈ h.namesCalls c names :=
  Call.flag_along fun _ _ => converted_handleName

end Handling

namespace Progress

variable {c : Conversion} {q : Pass} {p : Progress} {name : String} {m : Match}
  {w : Pass.Walk} {r : Record} {ms : Members} {vs : List Json} {d : Json}

section

variable (tree : r.tree = .obj ms) (entries : ms.get? "meta" = some (.arr vs))
  (data : r.tree.dataBlock? = some d)

include tree entries data

theorem leads_matchCalls (present : p.data ≠ .null) (there : p.data.get? m.location = some m.value) :
    (p.within w r).record.Leads ((p.within w r).matchCalls c name m)
      ((p.within w r).handleMatch c name m).record := by
  by_cases ended : (p.within w r).isOver c = true
  · simp only [Handling.matchCalls, Handling.handleMatch, ended, if_true]
    exact .done _
  · simp only [Handling.matchCalls, Handling.handleMatch, ended, Bool.false_eq_true, if_false]
    cases c.judge name m.value with
    | replace v =>
        -- The match was there when it was looked up, and nothing has taken it away since.
        have block := dataBlock?_within (w := w) tree entries data present
        have written := data_write there v
        refine .single ?_
        rw [Record.perform_write block written]
        simp only [Handling.write, block, written, Option.getD_some]
    | missing =>
        exact .single rfl
    | refuse i =>
        exact .single rfl

theorem leads_nameCalls (sound : c.Sound q) (present : p.data ≠ .null) :
    (p.within w r).record.Leads ((p.within w r).nameCalls c name)
      ((p.within w r).handleName c name).record := by
  by_cases ended : (p.within w r).isOver c = true
  · simp only [Handling.nameCalls, Handling.handleName, ended, if_true]
    exact .done _
  · have found : (p.within w r).matchesOf name = p.data.matchesOf name := by
      simp only [Handling.matchesOf, dataBlock?_within tree entries data present]
    simp only [Handling.nameCalls, Handling.handleName, ended, found, Bool.false_eq_true, if_false]
    cases matches_eq : p.data.matchesOf name with
    | nil =>
        exact .single rfl
    | cons m matched =>
        have fresh := fresh_matchesOf p.data name
        rw [matches_eq] at fresh
        -- Along the matches, those to come are fresh.
        refine Call.leads_along (f := Handling.record) (I := fun h matched =>
          ∃ p : Progress, h = p.within w r ∧ p.data ≠ .null ∧ Fresh p.data matched) ?_ ?_
          ⟨p, rfl, present, fresh⟩
        · rintro _ m' later ⟨p', rfl, present', fresh'⟩
          exact leads_matchCalls tree entries data present' (fresh'.there m' List.mem_cons_self)
        · rintro _ m' later ⟨p', rfl, present', fresh'⟩
          have step : Altered q (· = m'.location) p'.data (p'.convertMatch c name m').data :=
            altered_convertMatch sound (fresh'.there m' List.mem_cons_self)
          exact ⟨p'.convertMatch c name m', handleMatch_within tree entries data present',
            step.ne_null present', fresh'.step c name⟩

theorem leads_namesCalls (sound : c.Sound q) (present : p.data ≠ .null) (names : List String) :
    (p.within w r).record.Leads ((p.within w r).namesCalls c names)
      (names.foldl (Handling.handleName c) (p.within w r)).record := by
  -- Along the names, the data stay a block, so that each of them finds it.
  refine Call.leads_along (f := Handling.record) (I := fun h _ =>
    ∃ p : Progress, h = p.within w r ∧ p.data ≠ .null) ?_ ?_ ⟨p, rfl, present⟩
  · rintro _ name later ⟨p', rfl, present'⟩
    exact leads_nameCalls tree entries data sound present'
  · rintro _ name later ⟨p', rfl, present'⟩
    exact ⟨p'.convertName c name, handleName_within tree entries data sound present',
      (altered_convertName sound p' name).ne_null present'⟩

end

end Progress

namespace Record

variable {p : Pass} {w : Pass.Walk} {r : Record} {e : MetaEntry} {es : List MetaEntry} {ms : Members}
  {vs : List Json} {d v : Json} {i : Nat} {names : List String} {c : Conversion} {here : Record}

/-! ## The calls of a pass -/

/-- An entry that a plan can be made of is an object: it has a reference. -/
theorem exists_members_of_plan [JsonLibrary] [ZoneLibrary]
    (planned : p.plan (MetaEntry.ofJson i v) = .ok (names, c)) :
    ∃ ms, v = .obj ms := by
  rcases Pass.plan_eq_ok.1 planned with ⟨-, reference, there, -⟩
  cases v with
  | obj ms =>
      exact ⟨ms, rfl⟩
  | _ =>
      cases there

/-- Relabelling leaves objects objects. -/
theorem exists_members_of_foldl_modify (rs : List (Nat × Relabel))
    (there : ∃ ms, vs[i]? = some (.obj ms)) :
    ∃ ms, (rs.foldl (fun vs r => vs.modify r.1 r.2.onEntry) vs)[i]? = some (.obj ms) := by
  induction rs generalizing vs with
  | nil =>
      exact there
  | cons r rs ih =>
      rcases there with ⟨ms, there⟩
      apply ih
      rw [List.getElem?_modify, there]
      by_cases own : r.1 = i
      · exact ⟨r.2.apply ms, by simp [own, Relabel.onEntry]⟩
      · exact ⟨ms, by simp [own]⟩

section

variable (tree : r.tree = .obj ms) (entries : ms.get? "meta" = some (.arr vs))
  (data : r.tree.dataBlock? = some d)

include tree entries data

/-- Wherever a walk has come to, an entry that was an object is one. -/
theorem exists_entry_on {es : Members} (found : vs[i]? = some (.obj es)) :
    ∃ es', (w.on r).tree.get? (entryLocation i) = some (.obj es') := by
  rcases exists_members_of_foldl_modify w.relabels ⟨es, found⟩ with ⟨es', found'⟩
  refine ⟨es', ?_⟩
  rw [tree] at data
  rw [Pass.Walk.on, tree, Pass.Walk.restore_obj entries data,
    get?_entryLocation Members.get?_insert_self]
  exact found'

theorem leads_entryCalls [JsonLibrary] [ZoneLibrary] (present : w.data ≠ .null)
    (listed : e ∈ entriesOf vs) :
    (w.on r).Leads (entryCalls p (w.on r) e) (workEntry p (w.on r) e) := by
  cases planned : p.plan e with
  | error i =>
      simp only [entryCalls, workEntry, planned]
      exact .single rfl
  | ok plan =>
      rcases plan with ⟨names, c⟩
      rcases mem_entriesOf.1 listed with ⟨i, v, found, rfl⟩
      rcases exists_members_of_plan planned with ⟨es, rfl⟩
      have sound : c.Sound p := Pass.sound_plan planned
      have values := Progress.leads_namesCalls (p := .start w.data) (w := w) tree entries data sound
        present names
      rw [Progress.within_start] at values
      -- After its values have been converted the entry is still where it was read from.
      have there : ∃ es', (names.foldl (Handling.handleName c)
          ⟨w.on r, false, false⟩).record.tree.get? (entryLocation i) = some (.obj es') := by
        rw [handleNames_on tree entries data sound present]
        exact exists_entry_on tree entries data found
      simp only [entryCalls, workEntry, planned]
      split
      · rcases there with ⟨es', there⟩
        exact values.append (.single (perform_relabel there c.relabel))
      · rw [List.append_nil]
        exact values

theorem leads_entriesCalls [JsonLibrary] [ZoneLibrary] :
    r.Leads (r.entriesCalls p (entriesOf vs)) (r.workEntries p (entriesOf vs)) := by
  -- Along the entries, the record is one that a walk has come to, and those to come are in the array.
  refine Call.leads_along (f := id) (I := fun r' es => ∃ w : Pass.Walk, r' = w.on r ∧
    w.data ≠ .null ∧ ∀ e ∈ es, e ∈ entriesOf vs) ?_ ?_
    ⟨⟨d, [], []⟩, (start_on tree entries data).symm, (present?_eq_some.1 data).2, ?_⟩
  · rintro _ e later ⟨w, rfl, present, listed⟩
    exact leads_entryCalls tree entries data present (listed e List.mem_cons_self)
  · rintro _ e later ⟨w, rfl, present, listed⟩
    exact ⟨p.convertEntry w e, workEntry_on tree entries data present,
      (Pass.altered_convertEntry p w e).ne_null present,
      fun e' mem => listed e' (List.mem_cons_of_mem e mem)⟩
  · intro e mem
    exact List.mem_of_mem_filter mem

end

section

variable [JsonLibrary] [ZoneLibrary]

/-- The calls of a pass lead from the record to what the pass makes of it. -/
theorem leads_calls (r : Record) (p : Pass) : r.Leads (r.calls p) (r.run p) := by
  rw [← work_eq_run]
  -- The entries are gone through only where there are data; the passes differ in what comes first.
  cases entries : r.tree.metaEntries? with
  | none =>
      cases p with
      | unit =>
          simp only [calls, work, entries]
          exact .done r
      | dateTime =>
          cases data : r.tree.dataBlock? with
          | none =>
              simp only [calls, work, data]
              exact .single rfl
          | some d =>
              simp only [calls, work, entries, data]
              exact .done r
  | some es =>
      cases data : r.tree.dataBlock? with
      | none =>
          cases p <;> simp only [calls, work, entries, data] <;> exact .single rfl
      | some d =>
          rcases metaEntries?_eq_some.1 entries with ⟨ms, vs, tree, listed, rfl⟩
          have row := leads_entriesCalls (p := p) (r := r.markProcessed) tree listed data
          cases p <;> simp only [calls, work, entries, data] <;> exact .next rfl row

/-! ## The turn of an entry -/

/-- In its course a pass comes to an entry of its kind, in the record that the entries before it have
left. -/
def Visits (p : Pass) (r : Record) (e : MetaEntry) (here : Record) : Prop :=
  ∃ es before after, r.tree.metaEntries? = some es ∧ r.tree.dataBlock?.isSome = true ∧
    (es.filter fun e => e.kind = p.entryKind) = before ++ e :: after ∧
      here = before.foldl (workEntry p) r.markProcessed

/-- The calls of an entry stand in one piece among the calls of the pass. -/
theorem isInfix_entryCalls (h : Visits p r e here) : entryCalls p here e <:+: r.calls p := by
  rcases h with ⟨es, before, after, entries, present, split, rfl⟩
  rcases Option.isSome_iff_exists.1 present with ⟨d, data⟩
  have whole : r.calls p = .markProcessed :: r.markProcessed.entriesCalls p es := by
    cases p <;> simp only [calls, entries, data]
  have row : r.markProcessed.entriesCalls p es =
      Call.along (entryCalls p) (workEntry p) r.markProcessed before ++
        (entryCalls p (before.foldl (workEntry p) r.markProcessed) e ++
          Call.along (entryCalls p) (workEntry p)
            (workEntry p (before.foldl (workEntry p) r.markProcessed) e) after) := by
    rw [entriesCalls, split, Call.along_append]
    rfl
  rw [whole, row]
  exact ((List.prefix_append _ _).isInfix.trans (List.suffix_append _ _).isInfix).trans
    (List.suffix_cons _ _).isInfix

/-- What a visit finds: the entry is one of the array, and the pass over the data is about to come to it
as well. -/
theorem exists_walk_of_visits (h : Visits p r e here) :
    ∃ (ms : Members) (vs : List Json) (d v : Json) (w : Pass.Walk) (after : List MetaEntry),
      r.tree = .obj ms ∧ ms.get? "meta" = some (.arr vs) ∧ r.tree.dataBlock? = some d ∧
        vs[e.index]? = some v ∧ MetaEntry.ofJson e.index v = e ∧
          w.on r.markProcessed = here ∧ w.data ≠ .null ∧
            p.convertEntries (entriesOf vs) d =
              after.foldl (Pass.convertEntry p) (p.convertEntry w e) := by
  rcases h with ⟨es, before, after, entries, present, split, rfl⟩
  rcases Option.isSome_iff_exists.1 present with ⟨d, data⟩
  rcases metaEntries?_eq_some.1 entries with ⟨ms, vs, tree, array, rfl⟩
  -- Being one of the array, the entry bears the index of its place.
  have listed : e ∈ entriesOf vs := by
    have own : e ∈ before ++ e :: after := by simp
    rw [← split] at own
    exact List.mem_of_mem_filter own
  rcases mem_entriesOf.1 listed with ⟨i, v, found, rfl⟩
  have present : d ≠ .null := (present?_eq_some.1 data).2
  have row : before.foldl (workEntry p) r.markProcessed =
      (before.foldl (Pass.convertEntry p) ⟨d, [], []⟩).on r.markProcessed := by
    conv_lhs => rw [← start_on (r := r.markProcessed) tree array data]
    exact workRow_on (r := r.markProcessed) tree array data present
  refine ⟨ms, vs, d, v, _, after, tree, array, data, found, rfl, row.symm,
    (Pass.altered_convertRow p ⟨d, [], []⟩ before).ne_null present, ?_⟩
  rw [Pass.convertEntries, split, List.foldl_append, List.foldl_cons]

/-- The flag `converted` is set in an entry's turn exactly if one of its values is written. -/
theorem converted_iff (planned : p.plan e = .ok (names, c)) :
    (names.foldl (Handling.handleName c) ⟨here, false, false⟩).converted = true ↔
      ∃ l v, Call.write l v ∈ entryCalls p here e := by
  rw [Handling.converted_handleNames]
  simp only [entryCalls, planned]
  split <;> simp

/-- An entry whose values have been converted is relabelled where it was read from, and stays so to the
end of the pass. -/
theorem exists_relabelled_of_visits (h : Visits p r e here) (planned : p.plan e = .ok (names, c))
    (converted : (names.foldl (Handling.handleName c) ⟨here, false, false⟩).converted = true)
    (taken : (names.foldl (Handling.handleName c) ⟨here, false, false⟩).refused = false) :
    ∃ ms, r.tree.get? (entryLocation e.index) = some (.obj ms) ∧
      MetaEntry.ofJson e.index (.obj ms) = e ∧
        (r.run p).tree.get? (entryLocation e.index) = some (.obj (c.relabel.apply ms)) := by
  rcases exists_walk_of_visits h with
    ⟨ms, vs, d, v, w, after, tree, array, data, found, same, rfl, present, whole⟩
  rw [← same] at planned
  rcases exists_members_of_plan planned with ⟨own, rfl⟩
  -- Its turn in the record is its turn in the data.
  have done := handleNames_on (r := r.markProcessed) tree array data (Pass.sound_plan planned) present
    names
  rw [done] at converted taken
  have turn : p.Turn w.data (MetaEntry.ofJson e.index (.obj own)) names c :=
    ⟨planned, converted, taken⟩
  have listed : (e.index, c.relabel) ∈ (p.convertEntries (entriesOf vs) d).relabels := by
    rw [whole, ← same]
    exact Pass.mem_relabels_of_mem (Pass.mem_relabels_of_turn turn)
  have named : names ≠ [] := by
    rintro rfl
    cases converted
  -- The indices are all different, so no later turn relabels the entry again.
  have label := Pass.relabelled_of_plan found planned fun _ => listed
  rw [if_neg named] at label
  have block : (Json.obj ms).dataBlock? = some d := tree ▸ data
  refine ⟨own, ?_, same, ?_⟩
  · rw [tree, get?_entryLocation array]
    exact found
  · rw [run, absorb_eq, tree, Pass.run_eq array block, get?_entryLocation Members.get?_insert_self]
    simp [found, label, Relabel.onEntry]

/-- No call of a pass comes to nothing. The calls lead from the record to what the pass makes of it, and
each of them has a moment when it finds what it is to change and after which the record shows it.

So when the pass comes to an entry, it counts as converted exactly if one of its values is written, and
if it is due to be relabelled, there is the call for it, and the entry that was read is in the end the
relabelled one. -/
theorem every_call_shows (r : Record) (p : Pass) :
    r.Leads (r.calls p) (r.run p) ∧
      (∀ before call after, r.calls p = before ++ call :: after →
        ∃ r₁ r₂ : Record, r.Leads before r₁ ∧ r₁.perform call = (r₂, true) ∧ r₂.Shows call ∧
          r₂.Leads after (r.run p)) ∧
        ∀ e here names c, Visits p r e here → p.plan e = .ok (names, c) →
          let done := names.foldl (Handling.handleName c) ⟨here, false, false⟩
          entryCalls p here e <:+: r.calls p ∧
            (done.converted = true ↔ ∃ l v, Call.write l v ∈ entryCalls p here e) ∧
              (done.converted = true → done.refused = false →
                .relabel e.index c.relabel ∈ entryCalls p here e ∧
                  ∃ ms, r.tree.get? (entryLocation e.index) = some (.obj ms) ∧
                    MetaEntry.ofJson e.index (.obj ms) = e ∧
                      (r.run p).tree.get? (entryLocation e.index) =
                        some (.obj (c.relabel.apply ms))) := by
  refine ⟨leads_calls r p, ?_, ?_⟩
  · intro before call after split
    have leads := leads_calls r p
    rw [split] at leads
    rcases leads.exists_of_append with ⟨r₁, r₂, earlier, made, later⟩
    exact ⟨r₁, r₂, earlier, made, shows_of_perform made, later⟩
  · intro e here names c visits planned
    refine ⟨isInfix_entryCalls visits, converted_iff planned, ?_⟩
    intro converted taken
    refine ⟨?_, exists_relabelled_of_visits visits planned converted taken⟩
    simp [entryCalls, planned, converted, taken]

end

/-- The entry of the record that names one depth twice. -/
def repeatedEntry : MetaEntry :=
  { index := 0
    kind := .unit
    name := none
    namesField := some (.arr [.str "MD", .str "MD"])
    referenceField := some (.obj [("type", .str "USO"), ("scale", .num (.float 0.5)),
        ("baseMeasurement", .obj [("ancestry", .str "Length")])]) }

open BuiltIn in
/-- The entry names one depth twice: the depth is written, and the call that relabels the entry finds
it. -/
theorem every_call_shows_repeatedName :
    Visits .unit (fresh repeatedName) repeatedEntry (fresh repeatedName).markProcessed ∧
      ∃ c, Pass.unit.plan repeatedEntry = .ok (["MD", "MD"], c) ∧
        (∃ l v, Call.write l v ∈ (fresh repeatedName).calls .unit) ∧
          (∃ r₁ r₂ : Record, r₁.perform (.relabel 0 c.relabel) = (r₂, true) ∧
            r₂.Shows (.relabel 0 c.relabel)) ∧
            ∃ ms, repeatedName.get? (entryLocation 0) = some (.obj ms) ∧
              ((fresh repeatedName).run .unit).tree.get? (entryLocation 0) =
                some (.obj (c.relabel.apply ms)) := by
  have visits : Visits .unit (fresh repeatedName) repeatedEntry
      (fresh repeatedName).markProcessed := ⟨_, [], [], rfl, rfl, rfl, rfl⟩
  rcases every_call_shows (fresh repeatedName) .unit with ⟨-, each, turns⟩
  rcases turns repeatedEntry _ ["MD", "MD"] _ visits rfl with ⟨piece, written, due⟩
  rcases written.1 (by decide +kernel) with ⟨l, v, write⟩
  rcases due (by decide +kernel) (by decide +kernel) with ⟨call, ms, read, -, relabelled⟩
  rcases List.append_of_mem (piece.subset call) with ⟨before, after, split⟩
  rcases each before _ after split with ⟨r₁, r₂, -, made, shown, -⟩
  exact ⟨visits, _, rfl, ⟨l, v, piece.subset write⟩, ⟨r₁, r₂, made, shown⟩, ms, read, relabelled⟩

end Record
end RefFrame
