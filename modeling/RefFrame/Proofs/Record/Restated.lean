import Mathlib.Data.List.Forall2
import RefFrame.Json.Exact
import RefFrame.Proofs.Json.Reading
import RefFrame.Proofs.Record.Sweep
import RefFrame.Zone.Table

/-!
# References in either form

A reference may be given as an object or as the text of that object. Two records that differ only in
this are normalized alike (`Record.normalize_restated`): the data, the messages and the outcome are the
same, and an entry keeps its form in both or is relabelled in both, and is then the same entry.

What is needed of a text is that it reads back to its object.
-/

namespace RefFrame

open Json Reference

/-! ## Two forms -/

/-- Two entries that differ at most in the form of their references: an object in the first one, the
text of the object in the second one. -/
inductive RestatedEntry [JsonLibrary] : Json → Json → Prop
  | same (v : Json) : RestatedEntry v v
  | text {ms object : Members}
      (reference : ms.get? "persistableReference" = some (.obj object))
      (readable : Json.read? (Json.obj object).compact = some (.obj object)) :
      RestatedEntry (.obj ms)
        (.obj (ms.insert "persistableReference" (.str (Json.obj object).compact)))

/-- Two records that differ at most in the form of the references of their entries. -/
inductive Restated [JsonLibrary] : Json → Json → Prop
  | same (t : Json) : Restated t t
  | entries {ms : Members} {vs vs' : List Json} (listed : ms.get? "meta" = some (.arr vs))
      (restated : List.Forall₂ RestatedEntry vs vs') :
      Restated (.obj ms) (.obj (ms.insert "meta" (.arr vs')))

/-- What becomes of two entries: both stay what they are, or both get the same labels and are one and
the same entry then. -/
def KeptOrMerged (v v' u u' : Json) : Prop :=
  (u = v ∧ u' = v') ∨ ∃ label : Relabel, u = label.onEntry v ∧ u' = label.onEntry v' ∧ u = u'

/-! ## One entry -/

namespace RestatedEntry

variable [JsonLibrary] {p : Pass} {v v' d : Json}

/-- A text leads to the members of the object that it holds. -/
theorem members_text {object : Members}
    (readable : Json.read? (Json.obj object).compact = some (.obj object)) :
    members (.str (Json.obj object).compact) = members (.obj object) := by
  simp only [members, readable]

theorem conversion_eq [ZoneLibrary] {reference reference' : Json}
    (same : members reference = members reference') (p : Pass) :
    p.conversion reference = p.conversion reference' := by
  cases p with
  | unit =>
      simp only [Pass.conversion, Conversion.ofUnitReference, UnitFrame.ofReference, same]
  | dateTime =>
      simp only [Pass.conversion, Conversion.ofTimeReference, TimeFrame.ofReference, same]

theorem kind_eq (h : RestatedEntry v v') :
    (MetaEntry.ofJson 0 v').kind = (MetaEntry.ofJson 0 v).kind := by
  cases h with
  | same =>
      rfl
  | @text ms object reference readable =>
      have other : Members.get? (ms.insert "persistableReference" (.str (Json.obj object).compact))
          "kind" = ms.get? "kind" := Members.get?_insert_of_ne (by decide)
      simp [MetaEntry.ofJson, member?, other]

/-- Both forms of an entry have the same plan, or the same issue with it. -/
theorem plan_eq [ZoneLibrary] (h : RestatedEntry v v') (p : Pass) :
    p.plan (MetaEntry.ofJson 0 v') = p.plan (MetaEntry.ofJson 0 v) := by
  cases h with
  | same =>
      rfl
  | @text ms object reference readable =>
      have other : Members.get? (ms.insert "persistableReference" (.str (Json.obj object).compact))
          "propertyNames" = ms.get? "propertyNames" := Members.get?_insert_of_ne (by decide)
      have names : (MetaEntry.ofJson 0 (.obj (ms.insert "persistableReference"
          (.str (Json.obj object).compact)))).names = (MetaEntry.ofJson 0 (.obj ms)).names := by
        simp [MetaEntry.ofJson, MetaEntry.names, present?, member?, other]
      have asText : (MetaEntry.ofJson 0 (.obj (ms.insert "persistableReference"
          (.str (Json.obj object).compact)))).reference =
          .ok (.str (Json.obj object).compact) := by
        simp [MetaEntry.ofJson, MetaEntry.reference, present?, member?, Members.get?_insert_self]
      have asObject : (MetaEntry.ofJson 0 (.obj ms)).reference = .ok (.obj object) := by
        simp [MetaEntry.ofJson, MetaEntry.reference, present?, member?, reference]
      have asked := conversion_eq (members_text readable) p
      simp only [Pass.plan, names, asText, asObject, Except.mapError, bind, Except.bind, asked]

/-- The labels come in the place of the reference, so its form is gone afterwards. -/
theorem onEntry_eq (h : RestatedEntry v v') (label : Relabel) :
    label.onEntry v' = label.onEntry v := by
  cases h with
  | same =>
      rfl
  | text reference readable =>
      simp only [Relabel.onEntry, Relabel.apply, Members.insert_insert]

/-- Two forms of an entry have the same turn, and come out as they were or as one entry. -/
theorem deal_eq [ZoneLibrary] (h : RestatedEntry v v') (p : Pass) (d : Json) :
    (p.deal v' d).data = (p.deal v d).data ∧ (p.deal v' d).issues = (p.deal v d).issues ∧
      (((p.deal v d).entry = v ∧ (p.deal v' d).entry = v') ∨
        ((MetaEntry.ofJson 0 v).kind = p.entryKind ∧ ∃ label : Relabel,
          (p.deal v d).entry = label.onEntry v ∧ (p.deal v' d).entry = label.onEntry v')) := by
  by_cases kind : (MetaEntry.ofJson 0 v).kind = p.entryKind
  · have kind' : (MetaEntry.ofJson 0 v').kind = p.entryKind := h.kind_eq.trans kind
    cases planned : p.plan (MetaEntry.ofJson 0 v) with
    | error i =>
        have planned' := (h.plan_eq p).trans planned
        rw [Pass.deal_of_error kind planned, Pass.deal_of_error kind' planned']
        exact ⟨rfl, rfl, Or.inl ⟨rfl, rfl⟩⟩
    | ok plan =>
        rcases plan with ⟨names, c⟩
        have planned' := (h.plan_eq p).trans planned
        rw [Pass.deal_of_plan kind planned, Pass.deal_of_plan kind' planned']
        refine ⟨rfl, rfl, ?_⟩
        cases ((Progress.start d).convertNames c names).relabel? c with
        | none =>
            exact Or.inl ⟨rfl, rfl⟩
        | some label =>
            exact Or.inr ⟨kind, label, rfl, rfl⟩
  · have kind' : (MetaEntry.ofJson 0 v').kind ≠ p.entryKind := fun e => kind (h.kind_eq ▸ e)
    rw [Pass.deal_of_kind_ne kind, Pass.deal_of_kind_ne kind']
    exact ⟨rfl, rfl, Or.inl ⟨rfl, rfl⟩⟩

end RestatedEntry

/-! ## All entries -/

/-- What a pass makes of two forms of an entry: it is of the pass's kind if it is relabelled. -/
def Followed (p : Pass) (v v' u u' : Json) : Prop :=
  (u = v ∧ u' = v') ∨
    ((MetaEntry.ofJson 0 v).kind = p.entryKind ∧
      ∃ label : Relabel, u = label.onEntry v ∧ u' = label.onEntry v' ∧ u = u')

variable {p : Pass} {v v' u u' x x' d t t' : Json} {vs vs' : List Json} {i : Nat}

theorem Followed.restatedEntry [JsonLibrary] (h : Followed p v v' u u') (restated : RestatedEntry v v') :
    RestatedEntry u u' := by
  rcases h with ⟨rfl, rfl⟩ | ⟨-, label, -, -, rfl⟩
  · exact restated
  · exact .same u

/-- An entry for units is passed over by the pass for dates, whether it has been relabelled or not. -/
theorem Followed.trans (h : Followed .unit v v' u u') (h' : Followed .dateTime u u' x x') :
    KeptOrMerged v v' x x' := by
  rcases h with ⟨rfl, rfl⟩ | ⟨kind, label, labelled, labelled', same⟩
  · rcases h' with kept | ⟨-, merged⟩
    · exact Or.inl kept
    · exact Or.inr merged
  · rcases h' with ⟨rfl, rfl⟩ | ⟨kind', -⟩
    · exact Or.inr ⟨label, labelled, labelled', same⟩
    · rw [labelled, (Relabel.kind_names_onEntry v).1, kind] at kind'
      cases kind'

theorem Followed.keptOrMerged (h : Followed p v v' u u') : KeptOrMerged v v' u u' := by
  rcases h with kept | ⟨-, merged⟩
  · exact Or.inl kept
  · exact Or.inr merged

theorem RestatedEntry.followed [JsonLibrary] [ZoneLibrary] (h : RestatedEntry v v') (p : Pass) (d : Json) :
    Followed p v v' (p.deal v d).entry (p.deal v' d).entry := by
  rcases (h.deal_eq p d).2.2 with kept | ⟨kind, label, labelled, labelled'⟩
  · exact Or.inl kept
  · exact Or.inr ⟨kind, label, labelled, labelled', by rw [labelled, labelled', h.onEntry_eq]⟩

/-- The data and the issues are the same at each step of the sweep, so the next entries find the same
data in both. -/
theorem sweep_restated [JsonLibrary] [ZoneLibrary] (h : List.Forall₂ RestatedEntry vs vs') (p : Pass)
    (d : Json) :
    (p.sweep vs' d).data = (p.sweep vs d).data ∧
      (p.sweep vs' d).issues = (p.sweep vs d).issues ∧
        List.Forall₂ RestatedEntry (p.sweep vs d).entries (p.sweep vs' d).entries ∧
          ∀ {i : Nat} {v v' : Json}, vs[i]? = some v → vs'[i]? = some v' →
            ∃ u u', (p.sweep vs d).entries[i]? = some u ∧
              (p.sweep vs' d).entries[i]? = some u' ∧ Followed p v v' u u' := by
  induction h generalizing d with
  | nil =>
      exact ⟨rfl, rfl, .nil, by simp⟩
  | @cons w w' ws ws' own rest ih =>
      rcases own.deal_eq p d with ⟨data, issues, -⟩
      rcases ih (p.deal w d).data with ⟨data', issues', entries, each⟩
      simp only [Pass.sweep, data, issues, data', issues']
      refine ⟨trivial, trivial, .cons ((own.followed p d).restatedEntry own) entries, ?_⟩
      intro i v v' found found'
      cases i with
      | zero =>
          obtain rfl : w = v := by simpa using found
          obtain rfl : w' = v' := by simpa using found'
          exact ⟨_, _, rfl, rfl, own.followed p d⟩
      | succ i =>
          exact each (by simpa using found) (by simpa using found')

/-! ## The record -/

theorem Restated.dataBlock?_eq [JsonLibrary] (h : Restated t t') : t'.dataBlock? = t.dataBlock? := by
  cases h with
  | same =>
      rfl
  | entries listed restated =>
      simp [dataBlock?, present?, member?, Members.get?_insert_of_ne]

theorem Restated.member?_data [JsonLibrary] (h : Restated t t') : t'.member? "data" = t.member? "data" := by
  cases h with
  | same =>
      rfl
  | entries listed restated =>
      exact Members.get?_insert_of_ne (by decide)

section

variable [JsonLibrary] [ZoneLibrary]

/-- What a pass makes of two forms of a record. -/
structure RunAlike (p : Pass) (t t' : Json) : Prop where
  restated : Restated (p.run t).tree (p.run t').tree
  issues : (p.run t').issues = (p.run t).issues
  acted : (p.run t').acted = (p.run t).acted
  entry : ∀ {i : Nat} {v v' : Json}, t.get? (entryLocation i) = some v →
    t'.get? (entryLocation i) = some v' →
      ∃ u u', (p.run t).tree.get? (entryLocation i) = some u ∧
        (p.run t').tree.get? (entryLocation i) = some u' ∧ Followed p v v' u u'

theorem runAlike_of_kept (h : Restated t t') (tree : (p.run t).tree = t)
    (tree' : (p.run t').tree = t') (issues : (p.run t').issues = (p.run t).issues)
    (acted : (p.run t').acted = (p.run t).acted) : RunAlike p t t' := by
  refine ⟨by rwa [tree, tree'], issues, acted, ?_⟩
  intro i v v' found found'
  exact ⟨v, v', by rw [tree, found], by rw [tree', found'], Or.inl ⟨rfl, rfl⟩⟩

theorem runAlike_of_entries {ms : Members} (listed : ms.get? "meta" = some (.arr vs))
    (data : (obj ms).dataBlock? = some d) (h : List.Forall₂ RestatedEntry vs vs') :
    RunAlike p (obj ms) (obj (ms.insert "meta" (.arr vs'))) := by
  have listed' : (ms.insert "meta" (.arr vs')).get? "meta" = some (.arr vs') :=
    Members.get?_insert_self
  rcases sweep_restated h p d with ⟨same, issues, entries, each⟩
  have run := Pass.run_eq_sweep (p := p) listed data
  have run' : p.run (obj (ms.insert "meta" (.arr vs'))) = _ := Pass.run_insert_eq_sweep listed data
  rw [same, issues] at run'
  refine ⟨?_, ?_, ?_, ?_⟩
  · have listed_after : ((ms.insert "data" (p.sweep vs d).data).insert "meta"
        (.arr (p.sweep vs d).entries)).get? "meta" = some (.arr (p.sweep vs d).entries) :=
      Members.get?_insert_self
    have both := Restated.entries listed_after entries
    rw [run, run']
    rwa [Members.insert_insert] at both
  · rw [run, run']
  · rw [run, run']
  · intro i v v' found found'
    rw [get?_entryLocation listed] at found
    rw [get?_entryLocation listed'] at found'
    rw [run, run', get?_entryLocation Members.get?_insert_self,
      get?_entryLocation Members.get?_insert_self]
    exact each found found'

/-- A pass does not tell the forms of references apart. -/
theorem Restated.runAlike (h : Restated t t') (p : Pass) : RunAlike p t t' := by
  cases h with
  | same =>
      rcases Pass.run_cases p t with kept | ⟨es, d, entries, data⟩
      · exact runAlike_of_kept (.same t) kept kept rfl rfl
      · rcases metaEntries?_eq_some.1 entries with ⟨ms, vs, rfl, listed, -⟩
        have each : List.Forall₂ RestatedEntry vs vs := List.forall₂_same.2 fun v _ => .same v
        have alike := runAlike_of_entries (p := p) listed data each
        rwa [Members.insert_eq_self listed] at alike
  | @entries ms vs vs' listed restated =>
      have both : Restated (obj ms) (obj (ms.insert "meta" (.arr vs'))) := .entries listed restated
      cases data : (obj ms).dataBlock? with
      | none =>
          have found : (obj ms).metaEntries? = some (entriesOf vs) :=
            metaEntries?_eq_some.2 ⟨ms, vs, rfl, listed, rfl⟩
          have found' : (obj (ms.insert "meta" (.arr vs'))).metaEntries? = some (entriesOf vs') :=
            metaEntries?_eq_some.2 ⟨_, vs', rfl, Members.get?_insert_self, rfl⟩
          have kept := Pass.run_without_data p data data rfl
          have kept' := Pass.run_without_data p data (both.dataBlock?_eq.trans data)
            (by rw [found, found']; rfl)
          exact runAlike_of_kept both (by rw [kept]) (by rw [kept']) (by rw [kept']) (by rw [kept'])
      | some d =>
          exact runAlike_of_entries listed data restated

end

/-! ## Normalizing -/

namespace Record

variable {r : Record} {passes : Passes}

section

variable [JsonLibrary] [ZoneLibrary]

theorem run_withTree {p : Pass} (alike : RunAlike p r.tree t') :
    (r.withTree t').run p = (r.run p).withTree (p.run t').tree := by
  have same : (p.run t').status = (p.run r.tree).status := by
    simp only [Outcome.status, alike.issues, alike.acted]
  simp [run, absorb, withTree, alike.issues, same]

/-- Normalizing two forms of a record comes to two forms of a record, about which the same has been
said. -/
theorem exists_normalize_withTree (r : Record) (passes : Passes) (h : Restated r.tree t') :
    ∃ t'', (r.withTree t').normalize passes = (r.normalize passes).withTree t'' ∧
      Restated (r.normalize passes).tree t'' ∧
      ∀ {i : Nat} {v v' : Json}, r.tree.get? (entryLocation i) = some v →
        t'.get? (entryLocation i) = some v' →
          ∃ u u', (r.normalize passes).tree.get? (entryLocation i) = some u ∧
            t''.get? (entryLocation i) = some u' ∧ KeptOrMerged v v' u u' := by
  have single (p : Pass) : ∃ t'', (r.withTree t').run p = (r.run p).withTree t'' ∧
      Restated (r.run p).tree t'' ∧
      ∀ {i : Nat} {v v' : Json}, r.tree.get? (entryLocation i) = some v →
        t'.get? (entryLocation i) = some v' →
          ∃ u u', (r.run p).tree.get? (entryLocation i) = some u ∧
            t''.get? (entryLocation i) = some u' ∧ KeptOrMerged v v' u u' := by
    have alike := h.runAlike p
    refine ⟨_, run_withTree alike, alike.restated, ?_⟩
    intro i v v' found found'
    rcases alike.entry found found' with ⟨u, u', at_i, at_i', followed⟩
    exact ⟨u, u', at_i, at_i', followed.keptOrMerged⟩
  rcases passes with ⟨_ | _, _ | _⟩
  · refine ⟨t', rfl, h, ?_⟩
    intro i v v' found found'
    exact ⟨v, v', found, found', Or.inl ⟨rfl, rfl⟩⟩
  · exact single .dateTime
  · exact single .unit
  · -- The second pass finds two forms of a record again.
    have first := h.runAlike .unit
    have second := first.restated.runAlike .dateTime
    refine ⟨(Pass.dateTime.run (Pass.unit.run t').tree).tree, ?_, second.restated, ?_⟩
    · calc
        (r.withTree t').normalize ⟨true, true⟩ = ((r.withTree t').run .unit).run .dateTime := rfl
        _ = ((r.run .unit).withTree (Pass.unit.run t').tree).run .dateTime := by
          rw [run_withTree first]
        _ = _ := run_withTree (r := r.run .unit) second
    · intro i v v' found found'
      rcases first.entry found found' with ⟨u, u', at_i, at_i', followed⟩
      rcases second.entry at_i at_i' with ⟨x, x', final, final', followed'⟩
      exact ⟨x, x', final, final', followed.trans followed'⟩

/-- Records that differ only in the form of references are normalized alike: they have the same data,
the same messages and the same outcome, and each entry keeps its form in both or is relabelled in both,
and then comes out as the same entry. -/
theorem normalize_restated (r : Record) (passes : Passes) (h : Restated r.tree t') :
    ((r.withTree t').normalize passes).tree.member? "data" =
        (r.normalize passes).tree.member? "data" ∧
      ((r.withTree t').normalize passes).messages = (r.normalize passes).messages ∧
      ((r.withTree t').normalize passes).status = (r.normalize passes).status ∧
      ∀ (i : Nat) (v v' : Json), r.tree.get? (entryLocation i) = some v →
        t'.get? (entryLocation i) = some v' →
          ∃ u u', (r.normalize passes).tree.get? (entryLocation i) = some u ∧
            ((r.withTree t').normalize passes).tree.get? (entryLocation i) = some u' ∧
              KeptOrMerged v v' u u' := by
  rcases exists_normalize_withTree r passes h with ⟨t'', done, restated, entry⟩
  rw [done]
  exact ⟨restated.member?_data, rfl, rfl, fun i v v' found found' => entry found found'⟩

end

/-- The date of a record, with its reference as an object. -/
def dated (reference : Json) : Json :=
  .obj [("data", .obj [("Day", .str "12.08.2020")]),
    ("meta", .arr [.obj [("kind", .str "dateTime"), ("propertyNames", .arr [.str "Day"]),
      ("persistableReference", reference)]])]

/-- Days before months. -/
def dayFirst : Json :=
  .obj [("type", .str "DAT"), ("format", .str "dd.MM.yyyy")]

theorem restated_dated [JsonLibrary] : Restated (dated dayFirst) (dated (.str dayFirst.compact)) := by
  have legible : Legible nestingLimit dayFirst := by
    simp [dayFirst, Legible, LegibleMembers, Members.keys, nestingLimit]
  exact .entries rfl (.cons (.text rfl (readWithin?_compact legible)) .nil)

open BuiltIn in
theorem normalize_restated_dated :
    Restated (fresh (dated dayFirst)).tree (dated (.str dayFirst.compact)) ∧
      (((fresh (dated dayFirst)).withTree (dated (.str dayFirst.compact))).normalize
        ⟨true, true⟩).messages = [] ∧
      ((((fresh (dated dayFirst)).withTree (dated (.str dayFirst.compact))).normalize
        ⟨true, true⟩).tree.get? [.key "data", .key "Day"]).bind Json.text? = some "2020-08-12" := by
  rcases normalize_restated (fresh (dated dayFirst)) ⟨true, true⟩ restated_dated with
    ⟨data, messages, -, -⟩
  have quiet : ((fresh (dated dayFirst)).normalize ⟨true, true⟩).messages = [] := by
    decide +kernel
  have converted : (((fresh (dated dayFirst)).normalize ⟨true, true⟩).tree.get?
      [.key "data", .key "Day"]).bind Json.text? = some "2020-08-12" := by
    decide +kernel
  refine ⟨restated_dated, messages.trans quiet, ?_⟩
  rwa [get?_cons, child?, data]

end Record
end RefFrame
