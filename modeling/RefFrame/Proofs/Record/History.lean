import RefFrame.Json.Exact
import RefFrame.Record.Basic
import RefFrame.Zone.Table

/-!
# The history of a record

Whatever is done to a record, messages are only appended and the outcome only gets stronger
(`Record.Extends`), and there is a message exactly if the outcome is an error
(`Record.Reached.history`). A pass says all that it has to say by the two elementary steps, marking the
record as processed and adding an error (`Record.absorb_eq`), so nothing has to be proved of its loops.

Normalizing finds nothing to act on exactly if no pass runs, or if there are no entries and no want of
data is reported (`Record.status_normalize_eq_noFrame`).
-/

namespace RefFrame

/-! ## Outcomes -/

namespace Status

variable {a b : Status}

theorem rank_le_merge_left (a b : Status) : a.rank ≤ (merge a b).rank := by
  rw [rank_merge]
  exact Nat.le_max_left a.rank b.rank

theorem merge_eq_error : merge a b = .error ↔ a = .error ∨ b = .error := by
  cases a <;> cases b <;> decide

theorem merge_eq_noFrame : merge a b = .noFrame ↔ a = .noFrame ∧ b = .noFrame := by
  cases a <;> cases b <;> decide

end Status

namespace Outcome

variable {o : Outcome}

theorem status_eq_error : o.status = .error ↔ o.issues ≠ [] := by
  by_cases issues : o.issues = []
  · cases acted : o.acted <;> simp [status, issues, acted]
  · simp [status, issues]

theorem status_eq_noFrame : o.status = .noFrame ↔ o.issues = [] ∧ o.acted = false := by
  by_cases issues : o.issues = []
  · cases acted : o.acted <;> simp [status, issues, acted]
  · simp [status, issues]

end Outcome

namespace Record

variable {r r' r'' : Record} {t : Json} {passes : Passes}

/-! ## Steps -/

/-- What can be done to a record. -/
inductive Action
  | addError (message : String)
  | markProcessed
  | relabelEntry (index : Nat) (label : Relabel)
  | replaceData (data : Json)
  | run (pass : Pass)
  | normalize (passes : Passes)

/-- The record after something has been done to it. -/
def act [JsonLibrary] [ZoneLibrary] (r : Record) : Action → Record
  | .addError message => r.addError message
  | .markProcessed => r.markProcessed
  | .relabelEntry index label => (r.relabelEntry index label).1
  | .replaceData data => (r.replaceData data).1
  | .run pass => r.run pass
  | .normalize passes => r.normalize passes

/-- A record that was made of a value and has been worked on. -/
inductive Reached [JsonLibrary] [ZoneLibrary] : Record → Prop
  | new (tree : Json) : Reached (fresh tree)
  | checked {tree : Json} {r : Record} (made : ofJson tree = .ok r) : Reached r
  | act {r : Record} (before : Reached r) (a : Action) : Reached (r.act a)

/-- The outcome is an error exactly if there is a message. -/
def Consistent (r : Record) : Prop :=
  r.status = .error ↔ r.messages ≠ []

/-- A record with more to say: the messages so far come first, the outcome is as strong at least, and
outcome and messages still agree if they did. -/
structure Extends (r r' : Record) : Prop where
  messages : r.messages <+: r'.messages
  status : r.status.rank ≤ r'.status.rank
  consistent : r.Consistent → r'.Consistent

theorem Extends.trans (h : Extends r r') (h' : Extends r' r'') : Extends r r'' where
  messages := h.messages.trans h'.messages
  status := Nat.le_trans h.status h'.status
  consistent := fun agree => h'.consistent (h.consistent agree)

/-- Only the tree is another one. -/
theorem extends_of_same (messages : r'.messages = r.messages) (status : r'.status = r.status) :
    Extends r r' where
  messages := messages ▸ List.prefix_rfl
  status := Nat.le_of_eq (congrArg Status.rank status.symm)
  consistent := by
    intro agree
    rwa [Consistent, messages, status]

theorem Extends.refl (r : Record) : Extends r r :=
  extends_of_same rfl rfl

theorem extends_addError (r : Record) (message : String) : Extends r (r.addError message) where
  messages := List.prefix_append r.messages [message]
  status := Status.rank_le_merge_left r.status .error
  consistent := by
    intro _
    simp [Consistent, addError, Status.merge_eq_error]

theorem extends_markProcessed (r : Record) : Extends r r.markProcessed where
  messages := List.prefix_rfl
  status := Status.rank_le_merge_left r.status .success
  consistent := by
    intro agree
    simpa [Consistent, markProcessed, Status.merge_eq_error] using agree

theorem extends_addErrors (r : Record) (issues : List Issue) :
    Extends r (issues.foldl (fun r i => r.addError i.message) r) := by
  induction issues generalizing r with
  | nil =>
      exact Extends.refl r
  | cons i issues ih =>
      exact (extends_addError r i.message).trans (ih (r.addError i.message))

/-! ## Passes -/

theorem foldl_addError (r : Record) (issues : List Issue) :
    issues.foldl (fun r i => r.addError i.message) r =
      { r with
        messages := r.messages ++ issues.map Issue.message
        status := r.status.merge (if issues = [] then .noFrame else .error) } := by
  induction issues generalizing r with
  | nil =>
      cases status : r.status <;> simp [Status.merge, Status.rank, ← status]
  | cons i issues ih =>
      have status : (r.status.merge .error).merge (if issues = [] then .noFrame else .error) =
          r.status.merge .error := by
        rw [Status.merge_assoc]
        split <;> rfl
      rw [List.foldl_cons, ih]
      simp [addError, status]

/-- What a pass adds to a record: it marks the record as processed if it acted, and adds its issues
as errors, one after the other. -/
theorem absorb_eq (r : Record) (o : Outcome) :
    r.absorb o =
      { o.issues.foldl (fun r i => r.addError i.message)
          (if o.acted then r.markProcessed else r) with tree := o.tree } := by
  rw [foldl_addError]
  rcases o with ⟨tree, issues, acted⟩
  cases acted with
  | false =>
      simp [absorb, Outcome.status]
  | true =>
      have merged : r.status.merge (if issues = [] then .success else .error) =
          (r.status.merge .success).merge (if issues = [] then .noFrame else .error) := by
        rw [Status.merge_assoc]
        split <;> rfl
      simp [absorb, Outcome.status, markProcessed, merged]

section

variable [JsonLibrary] [ZoneLibrary]

theorem extends_run (r : Record) (p : Pass) : Extends r (r.run p) := by
  have marked : Extends r (if (p.run r.tree).acted then r.markProcessed else r) := by
    split
    · exact extends_markProcessed r
    · exact Extends.refl r
  rw [run, absorb_eq]
  exact (marked.trans (extends_addErrors _ (p.run r.tree).issues)).trans (extends_of_same rfl rfl)

theorem extends_normalize (r : Record) (passes : Passes) : Extends r (r.normalize passes) := by
  have units : Extends r (if passes.units then r.run .unit else r) := by
    split
    · exact extends_run r .unit
    · exact Extends.refl r
  rw [normalize]
  split
  · exact units.trans (extends_run _ .dateTime)
  · exact units

/-! ## Histories -/

/-- One step. -/
theorem extends_act (r : Record) (a : Action) : Extends r (r.act a) := by
  cases a with
  | addError message =>
      exact extends_addError r message
  | markProcessed =>
      exact extends_markProcessed r
  | relabelEntry index label =>
      cases relabelled : r.tree.relabelEntry? index label <;>
        simp only [act, relabelEntry, relabelled] <;> exact extends_of_same rfl rfl
  | replaceData data =>
      cases replaced : r.tree.replaceData? data <;>
        simp only [act, replaceData, replaced] <;> exact extends_of_same rfl rfl
  | run pass =>
      exact extends_run r pass
  | normalize passes =>
      exact extends_normalize r passes

end

theorem consistent_fresh (t : Json) : (fresh t).Consistent := by
  simp [Consistent, fresh]

theorem eq_fresh_of_ofJson (h : ofJson t = .ok r) : r = fresh t := by
  cases t with
  | obj ms =>
      exact (Except.ok.inj h).symm
  | _ =>
      cases h

section

variable [JsonLibrary] [ZoneLibrary]

theorem Reached.consistent (h : Reached r) : r.Consistent := by
  induction h with
  | new t =>
      exact consistent_fresh t
  | checked made =>
      rw [eq_fresh_of_ofJson made]
      exact consistent_fresh _
  | act _ a ih =>
      exact (extends_act _ a).consistent ih

/-! ## Nothing to act on -/

theorem run_eq_of_noFrame {p : Pass} (h : (p.run t).status = .noFrame) :
    p.run t = ⟨t, [], false⟩ := by
  rcases Outcome.status_eq_noFrame.1 h with ⟨issues, acted⟩
  cases entries : t.metaEntries? <;> cases data : t.dataBlock? <;> cases p <;>
    simp_all [Pass.run, Pass.convert]

/-- A pass finds nothing to act on if there are no entries; the pass for dates reports it then if
there are no data either. -/
theorem status_run_eq_noFrame {p : Pass} :
    (p.run t).status = .noFrame ↔
      t.metaEntries? = none ∧ (p = .unit ∨ t.dataBlock?.isSome = true) := by
  rw [Outcome.status_eq_noFrame]
  cases entries : t.metaEntries? <;> cases data : t.dataBlock? <;> cases p <;>
    simp [Pass.run, Pass.convert, entries, data]

theorem status_run_eq {p : Pass} :
    (r.run p).status = .noFrame ↔ r.status = .noFrame ∧ (p.run r.tree).status = .noFrame :=
  Status.merge_eq_noFrame

theorem run_fresh_of_noFrame {p : Pass} (h : ((fresh t).run p).status = .noFrame) :
    (fresh t).run p = fresh t := by
  have nothing : p.run (fresh t).tree = ⟨t, [], false⟩ := run_eq_of_noFrame (status_run_eq.1 h).2
  rw [run, nothing]
  rfl

/-- A record about whose frames nothing can be said is left alone, and nothing is said about it. -/
theorem eq_fresh_of_noFrame (h : ((fresh t).normalize passes).status = .noFrame) :
    (fresh t).normalize passes = fresh t := by
  rcases passes with ⟨_ | _, _ | _⟩
  · rfl
  · exact run_fresh_of_noFrame h
  · exact run_fresh_of_noFrame h
  · -- The pass for dates does not weaken the outcome, so the pass for units found nothing either.
    have both : (((fresh t).run .unit).run .dateTime).status = .noFrame := h
    have units := run_fresh_of_noFrame (status_run_eq.1 both).1
    rw [units] at both
    show ((fresh t).run .unit).run .dateTime = fresh t
    rw [units]
    exact run_fresh_of_noFrame both

theorem status_run_fresh {p : Pass} :
    ((fresh t).run p).status = .noFrame ↔
      t.metaEntries? = none ∧ (p = .unit ∨ t.dataBlock?.isSome = true) := by
  rw [status_run_eq, show (fresh t).tree = t from rfl, status_run_eq_noFrame]
  simp [fresh]

/-- When normalizing finds nothing to act on. -/
theorem status_normalize_eq_noFrame (t : Json) (passes : Passes) :
    ((fresh t).normalize passes).status = .noFrame ↔
      (passes.units = false ∧ passes.dates = false) ∨
        (t.metaEntries? = none ∧ (passes.dates = false ∨ t.dataBlock?.isSome = true)) := by
  rcases passes with ⟨_ | _, _ | _⟩
  · simp [normalize, fresh]
  · have dates : ((fresh t).normalize ⟨false, true⟩) = (fresh t).run .dateTime := rfl
    simp [dates, status_run_fresh]
  · have units : ((fresh t).normalize ⟨true, false⟩) = (fresh t).run .unit := rfl
    simp [units, status_run_fresh]
  · have both : ((fresh t).normalize ⟨true, true⟩) = ((fresh t).run .unit).run .dateTime := rfl
    constructor
    · intro h
      rw [both] at h
      rw [run_fresh_of_noFrame (status_run_eq.1 h).1, status_run_fresh] at h
      simpa using h
    · intro h
      have h' : t.metaEntries? = none ∧ t.dataBlock?.isSome = true := by simpa using h
      have units : ((fresh t).run .unit).status = .noFrame :=
        status_run_fresh.2 ⟨h'.1, Or.inl rfl⟩
      rw [both, run_fresh_of_noFrame units]
      exact status_run_fresh.2 ⟨h'.1, Or.inr h'.2⟩

/-! ## The whole -/

/-- Of every record that can be reached: its outcome is an error exactly if there is a message;
whatever is done next, its messages stay in front and its outcome does not get weaker. And of every
value: normalizing it finds nothing to act on in just one situation, and leaves it alone then. -/
theorem Reached.history (h : Reached r) :
    (r.status = .error ↔ r.messages ≠ []) ∧
      (∀ a : Action, r.messages <+: (r.act a).messages ∧ r.status.rank ≤ (r.act a).status.rank) ∧
      ∀ (t : Json) (passes : Passes),
        (((fresh t).normalize passes).status = .noFrame ↔
          (passes.units = false ∧ passes.dates = false) ∨
            (t.metaEntries? = none ∧ (passes.dates = false ∨ t.dataBlock?.isSome = true))) ∧
        (((fresh t).normalize passes).status = .noFrame →
          ((fresh t).normalize passes).messages = [] ∧
            ((fresh t).normalize passes).tree = t) := by
  refine ⟨h.consistent, ?_, ?_⟩
  · intro a
    exact ⟨(extends_act r a).messages, (extends_act r a).status⟩
  · intro t passes
    refine ⟨status_normalize_eq_noFrame t passes, ?_⟩
    intro nothing
    rw [eq_fresh_of_noFrame nothing]
    exact ⟨rfl, rfl⟩

/-- A record without data, which both passes have gone over, and which is marked afterwards. -/
def withoutData : Record :=
  ((fresh (.obj [("meta", .arr [])])).act (.normalize ⟨true, true⟩)).act .markProcessed

end

open BuiltIn in
theorem history_withoutData :
    Reached withoutData ∧ (withoutData.status = .error ↔ withoutData.messages ≠ []) ∧
      withoutData.messages = ["DateTime conversion: missing data block"] ∧
      withoutData.messages <+: (withoutData.act (.addError "again")).messages := by
  have reached : Reached withoutData := .act (.act (.new _) _) _
  exact ⟨reached, reached.history.1, by decide, (reached.history.2.1 (.addError "again")).1⟩

end Record
end RefFrame
