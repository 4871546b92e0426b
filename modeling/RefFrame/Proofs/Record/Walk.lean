import RefFrame.Proofs.Fallible
import RefFrame.Proofs.Record.Progress

/-!
# The walk of a pass over the entries

A pass deals with the entries of its kind in their order. The shape of the data is kept on the way,
so an entry addresses the same places when its turn comes as it does in the data of the record.

An entry is relabelled in its own turn or never. `Turn` says what it takes, and
`exists_turn_of_mem_relabels` finds the turn behind a relabelled entry.
-/

namespace RefFrame

open Json Location

namespace MetaEntry

variable {e : MetaEntry} {d d' : Json} {l : Location}

/-- Some name of the entry addresses the place. -/
def Addresses (e : MetaEntry) (d : Json) (l : Location) : Prop :=
  ∃ names, e.names = .ok names ∧ ∃ name ∈ names, l ∈ d.locationsOf name

theorem addresses_iff {names : List String} (h : e.names = .ok names) :
    e.Addresses d l ↔ ∃ name ∈ names, l ∈ d.locationsOf name := by
  constructor
  · rintro ⟨names', h', addressed⟩
    rw [h] at h'
    cases h'
    exact addressed
  · intro addressed
    exact ⟨names, h, addressed⟩

theorem addresses_iff_of_sameShape (h : SameShape d d') :
    e.Addresses d l ↔ e.Addresses d' l := by
  simp only [Addresses, h.locationsOf_eq]

theorem reference_eq_ok {reference : Json} :
    e.reference = .ok reference ↔ e.referenceField = some reference := by
  cases found : e.referenceField <;> simp [MetaEntry.reference, found]

end MetaEntry

namespace Pass

variable {p : Pass} {w w' : Walk} {e : MetaEntry} {es : List MetaEntry} {d : Json} {i : Nat}
  {r : Relabel} {names : List String} {c : Conversion} {l : Location} {v : Json}

/-! ## The plan of an entry -/

section

variable [JsonLibrary] [ZoneLibrary]

theorem plan_eq_ok :
    p.plan e = .ok (names, c) ↔
      e.names = .ok names ∧ ∃ reference, e.referenceField = some reference ∧
        p.conversion reference = .ok c := by
  simp only [plan, bind_ok_iff, mapError_ok_iff, pure_ok_iff, MetaEntry.reference_eq_ok,
    Prod.mk.injEq]
  constructor
  · rintro ⟨names', written, reference, there, c', asked, rfl, rfl⟩
    exact ⟨written, reference, there, asked⟩
  · rintro ⟨written, reference, there, asked⟩
    exact ⟨names, written, reference, there, c, asked, rfl, rfl⟩

theorem conversion_unit_eq_ok {reference : Json} :
    unit.conversion reference = .ok c ↔
      ∃ u, UnitFrame.ofReference reference = .ok u ∧ Conversion.ofUnit u = c := by
  cases found : UnitFrame.ofReference reference <;>
    simp [conversion, Conversion.ofUnitReference, found]

theorem conversion_dateTime_eq_ok {reference : Json} :
    dateTime.conversion reference = .ok c ↔
      ∃ f, TimeFrame.ofReference reference = .ok f ∧ Conversion.ofTime f = c := by
  cases found : TimeFrame.ofReference reference <;>
    simp [conversion, Conversion.ofTimeReference, found]

theorem sound_conversion {reference : Json} (h : p.conversion reference = .ok c) : c.Sound p := by
  cases p with
  | unit =>
      rcases conversion_unit_eq_ok.1 h with ⟨u, -, rfl⟩
      exact Conversion.sound_ofUnit u
  | dateTime =>
      rcases conversion_dateTime_eq_ok.1 h with ⟨f, -, rfl⟩
      exact Conversion.sound_ofTime f

theorem sound_plan (h : p.plan e = .ok (names, c)) : c.Sound p := by
  rcases plan_eq_ok.1 h with ⟨-, reference, -, found⟩
  exact sound_conversion found

/-! ## One entry -/

/-- The entry has its turn in some data, and all goes well enough for it to be relabelled. -/
structure Turn (p : Pass) (d : Json) (e : MetaEntry) (names : List String) (c : Conversion) :
    Prop where
  planned : p.plan e = .ok (names, c)
  converted : ((Progress.start d).convertNames c names).converted = true
  not_refused : ((Progress.start d).convertNames c names).refused = false

/-- What becomes of one entry: an issue, a relabelled entry, or only new data and issues. -/
theorem convertEntry_cases (p : Pass) (w : Walk) (e : MetaEntry) :
    (∃ i, p.plan e = .error i ∧ p.convertEntry w e = { w with issues := w.issues ++ [i] }) ∨
      ∃ names c, p.plan e = .ok (names, c) ∧
        (p.convertEntry w e).data = ((Progress.start w.data).convertNames c names).data ∧
        (p.convertEntry w e).issues =
          w.issues ++ ((Progress.start w.data).convertNames c names).issues ∧
        (((p.convertEntry w e).relabels = w.relabels ∧ ¬ p.Turn w.data e names c) ∨
          ((p.convertEntry w e).relabels = w.relabels ++ [(e.index, c.relabel)] ∧
            p.Turn w.data e names c)) := by
  cases planned : p.plan e with
  | error i =>
      exact Or.inl ⟨i, rfl, by simp [convertEntry, planned]⟩
  | ok plan =>
      rcases plan with ⟨names, c⟩
      refine Or.inr ⟨names, c, rfl, by simp [convertEntry, planned], by
        simp [convertEntry, planned], ?_⟩
      cases converted : ((Progress.start w.data).convertNames c names).converted with
      | false =>
          refine Or.inl ⟨by simp [convertEntry, planned, Progress.relabel?, converted], ?_⟩
          intro turn
          simpa [converted] using turn.converted
      | true =>
          cases refused : ((Progress.start w.data).convertNames c names).refused with
          | true =>
              refine Or.inl ⟨by
                simp [convertEntry, planned, Progress.relabel?, converted, refused], ?_⟩
              intro turn
              simpa [refused] using turn.not_refused
          | false =>
              exact Or.inr ⟨by
                simp [convertEntry, planned, Progress.relabel?, converted, refused],
                planned, converted, refused⟩

theorem mem_relabels_of_turn (h : p.Turn w.data e names c) :
    (e.index, c.relabel) ∈ (p.convertEntry w e).relabels := by
  simp [convertEntry, h.planned, Progress.relabel?, h.converted, h.not_refused]

theorem altered_convertEntry (p : Pass) (w : Walk) (e : MetaEntry) :
    Altered p (e.Addresses w.data) w.data (p.convertEntry w e).data := by
  rcases convertEntry_cases p w e with ⟨i, -, done⟩ | ⟨names, c, planned, done, -⟩
  · rw [done]
    exact Altered.refl _ _ _
  · rw [done]
    refine (Progress.altered_convertNames (sound_plan planned) (Progress.start w.data)
      names).mono ?_
    intro l addressed
    exact (MetaEntry.addresses_iff (plan_eq_ok.1 planned).1).2 addressed

/-! ## All entries -/

/-- The data after a row of entries: the places that they address in the data before may have been
rewritten. -/
theorem altered_convertRow (p : Pass) (w : Walk) (es : List MetaEntry) :
    Altered p (fun l => ∃ e ∈ es, e.Addresses w.data l) w.data
      (es.foldl (convertEntry p) w).data := by
  induction es generalizing w with
  | nil =>
      exact Altered.refl _ _ _
  | cons e es ih =>
      have first := altered_convertEntry p w e
      refine Altered.trans (first.mono ?_) ((ih (p.convertEntry w e)).mono ?_)
      · intro l addressed
        exact ⟨e, List.mem_cons_self, addressed⟩
      · -- Later entries find data of the old shape, so they address what they did at first.
        rintro l ⟨e', mem', addressed⟩
        refine ⟨e', List.mem_cons_of_mem e mem', ?_⟩
        exact (MetaEntry.addresses_iff_of_sameShape first.sameShape).2 addressed

theorem altered_convertEntries (p : Pass) (es : List MetaEntry) (d : Json) :
    Altered p (fun l => ∃ e ∈ es, e.kind = p.entryKind ∧ e.Addresses d l) d
      (p.convertEntries es d).data := by
  refine (altered_convertRow p ⟨d, [], []⟩ (es.filter fun e => e.kind = p.entryKind)).mono ?_
  rintro l ⟨e, mem, addressed⟩
  have kept : e ∈ es ∧ e.kind = p.entryKind := by simpa using mem
  exact ⟨e, kept.1, kept.2, addressed⟩

/-- Behind a relabelled entry there is its turn, with the entries dealt with before it and those
dealt with after it. -/
theorem exists_turn_of_mem_row (h : (i, r) ∈ (es.foldl (convertEntry p) w).relabels) :
    (i, r) ∈ w.relabels ∨ ∃ before e after names c, es = before ++ e :: after ∧ e.index = i ∧
      c.relabel = r ∧ p.Turn (before.foldl (convertEntry p) w).data e names c := by
  induction es generalizing w with
  | nil =>
      exact Or.inl h
  | cons e es ih =>
      rcases ih h with found | ⟨before, e', after, names, c, rfl, index, label, turn⟩
      · -- Relabelled by the first of the entries, or before it.
        rcases convertEntry_cases p w e with
          ⟨fault, -, done⟩ | ⟨names, c, -, -, -, ⟨done, -⟩ | ⟨done, turn⟩⟩
        · rw [done] at found
          exact Or.inl found
        · rw [done] at found
          exact Or.inl found
        · rw [done] at found
          rcases List.mem_append.1 found with earlier | own
          · exact Or.inl earlier
          · have same : i = e.index ∧ r = c.relabel := by simpa using own
            exact Or.inr ⟨[], e, es, names, c, rfl, same.1.symm, same.2.symm, turn⟩
      · exact Or.inr ⟨e :: before, e', after, names, c, rfl, index, label, turn⟩

theorem exists_turn_of_mem_relabels (h : (i, r) ∈ (p.convertEntries es d).relabels) :
    ∃ before e after names c, (es.filter fun e => e.kind = p.entryKind) = before ++ e :: after ∧
      e.index = i ∧ c.relabel = r ∧
        p.Turn (before.foldl (convertEntry p) ⟨d, [], []⟩).data e names c := by
  rcases exists_turn_of_mem_row h with impossible | found
  · cases impossible
  · exact found

theorem sublist_relabels_row (p : Pass) (w : Walk) (es : List MetaEntry) :
    ((es.foldl (convertEntry p) w).relabels.map Prod.fst).Sublist
      (w.relabels.map Prod.fst ++ es.map MetaEntry.index) := by
  induction es generalizing w with
  | nil =>
      simp
  | cons e es ih =>
      refine (ih (p.convertEntry w e)).trans ?_
      -- One entry adds its own index or none.
      have step : ((p.convertEntry w e).relabels.map Prod.fst).Sublist
          (w.relabels.map Prod.fst ++ [e.index]) := by
        rcases convertEntry_cases p w e with
          ⟨fault, -, done⟩ | ⟨names, c, -, -, -, ⟨done, -⟩ | ⟨done, -⟩⟩
        · simp [done]
        · simp [done]
        · simp [done]
      simpa using step.append (List.Sublist.refl (es.map MetaEntry.index))

theorem sublist_relabels (p : Pass) (es : List MetaEntry) (d : Json) :
    ((p.convertEntries es d).relabels.map Prod.fst).Sublist (es.map MetaEntry.index) := by
  have row : ((p.convertEntries es d).relabels.map Prod.fst).Sublist
      ((es.filter fun e => e.kind = p.entryKind).map MetaEntry.index) :=
    sublist_relabels_row p ⟨d, [], []⟩ (es.filter fun e => e.kind = p.entryKind)
  exact row.trans (List.filter_sublist.map MetaEntry.index)

end

end Pass
end RefFrame
