import RefFrame.Proofs.Record.Clean
import RefFrame.Proofs.Record.InPlace

/-!
# What a pass does to its record, call by call

Worked step by step, a pass is a row of calls on its record: it marks the record, adds messages, writes
values into the data and relabels entries. `Record.calls` lists them. The places and the indices are
looked up before the calls are made, and the pass does not ask whether a call has found what it is to
change. `Record.perform` tells.

`Record.Leads` says that calls lead from one record to another and that each of them finds its place, and
`Record.shows_of_perform` what the record is like after such a call.
-/

namespace RefFrame

open Json Location

/-- One thing that a pass does to its record. -/
inductive Call
  | markProcessed
  | addError (message : String)
  /-- A value goes to a place of the data. -/
  | write (l : Location) (v : Json)
  | relabel (index : Nat) (label : Relabel)

namespace Record

/-- Puts a value in the place of another one in the data; the flag says whether there is one. -/
def writeData (r : Record) (l : Location) (v : Json) : Record × Bool :=
  match r.tree.dataBlock?.bind fun d => d.replace? l v with
  | some d => r.replaceData d
  | none => (r, false)

/-- The record after a call. The flag says whether the call has found what it is to change. -/
def perform (r : Record) : Call → Record × Bool
  | .markProcessed => (r.markProcessed, true)
  | .addError message => (r.addError message, true)
  | .write l v => r.writeData l v
  | .relabel index label => r.relabelEntry index label

/-- The record shows what a call was to bring about. -/
def Shows (r : Record) : Call → Prop
  | .markProcessed => r.status ≠ .noFrame
  | .addError message => message ∈ r.messages ∧ r.status = .error
  | .write l v => r.tree.get? (.key "data" :: l) = some v
  | .relabel index label =>
    ∃ ms : Members, r.tree.get? (entryLocation index) = some (.obj ms) ∧
      ms.get? "persistableReference" = some (.str label.reference) ∧
      ∀ name, label.name = some name → ms.get? "name" = some (.str name)

/-- The calls, made one after the other, lead from the first record to the second, and each of them
finds what it is to change. -/
inductive Leads : Record → List Call → Record → Prop
  | done (r : Record) : Leads r [] r
  | next {r r' r'' : Record} {c : Call} {cs : List Call} (made : r.perform c = (r', true))
      (later : Leads r' cs r'') : Leads r (c :: cs) r''

end Record

/-- The calls that are made along a row of things to do. -/
def Call.along {σ α : Type} (calls : σ → α → List Call) (step : σ → α → σ) : σ → List α → List Call
  | _, [] => []
  | s, a :: as => calls s a ++ along calls step (step s a) as

/-! ## The calls of a pass -/

namespace Handling

/-- The calls for one match. -/
def matchCalls (c : Conversion) (name : String) (h : Handling) (m : Match) : List Call :=
  if h.isOver c then []
  else
    match c.judge name m.value with
    | .replace v => [.write m.location v]
    | .missing => [.addError (Issue.missingProperty c.pass name).message]
    | .refuse i => [.addError i.message]

/-- The calls for what a name addresses. -/
def nameCalls (c : Conversion) (h : Handling) (name : String) : List Call :=
  if h.isOver c then []
  else
    match h.matchesOf name with
    | [] => [.addError (Issue.missingProperty c.pass name).message]
    | ms => Call.along (matchCalls c name) (handleMatch c name) h ms

def namesCalls (c : Conversion) (h : Handling) (names : List String) : List Call :=
  Call.along (nameCalls c) (handleName c) h names

end Handling

namespace Record

/-- The calls for one entry: the last of them relabels it, when its values have been converted. -/
def entryCalls [JsonLibrary] [ZoneLibrary] (p : Pass) (r : Record) (e : MetaEntry) : List Call :=
  match p.plan e with
  | .error i => [.addError i.message]
  | .ok (names, c) =>
    let done := names.foldl (Handling.handleName c) ⟨r, false, false⟩
    Handling.namesCalls c ⟨r, false, false⟩ names ++
      if done.converted && !done.refused then [.relabel e.index c.relabel] else []

def entriesCalls [JsonLibrary] [ZoneLibrary] (p : Pass) (r : Record) (es : List MetaEntry) : List Call :=
  Call.along (entryCalls p) (workEntry p) r (es.filter fun e => e.kind = p.entryKind)

/-- The calls that a pass makes on a record, in their order. -/
def calls [JsonLibrary] [ZoneLibrary] (r : Record) : Pass → List Call
  | .unit =>
    match r.tree.metaEntries? with
    | none => []
    | some es =>
      match r.tree.dataBlock? with
      | none => [.markProcessed]
      | some _ => .markProcessed :: r.markProcessed.entriesCalls .unit es
  | .dateTime =>
    match r.tree.dataBlock? with
    | none => [.addError (Issue.missingData .dateTime).message]
    | some _ =>
      match r.tree.metaEntries? with
      | none => []
      | some es => .markProcessed :: r.markProcessed.entriesCalls .dateTime es

end Record

/-! ## Rows of calls -/

namespace Record.Leads

variable {r r' r'' : Record} {c : Call} {cs cs' : List Call}

theorem single (made : r.perform c = (r', true)) : Leads r [c] r' :=
  .next made (.done r')

theorem append (h : Leads r cs r') (h' : Leads r' cs' r'') : Leads r (cs ++ cs') r'' := by
  induction h with
  | done r =>
      exact h'
  | next made _ ih =>
      exact .next made (ih h')

/-- Each call has its moment. -/
theorem exists_of_append (h : Leads r (cs ++ c :: cs') r') :
    ∃ r₁ r₂, Leads r cs r₁ ∧ r₁.perform c = (r₂, true) ∧ Leads r₂ cs' r' := by
  induction cs generalizing r with
  | nil =>
      cases h with
      | next made later =>
          exact ⟨r, _, .done r, made, later⟩
  | cons first cs ih =>
      cases h with
      | next made later =>
          rcases ih later with ⟨r₁, r₂, before, own, after⟩
          exact ⟨r₁, r₂, .next made before, own, after⟩

end Record.Leads

namespace Call

variable {σ α : Type} {calls : σ → α → List Call} {step : σ → α → σ} {s : σ} {a : α} {as bs : List α}

theorem along_append :
    along calls step s (as ++ bs) =
      along calls step s as ++ along calls step (as.foldl step s) bs := by
  induction as generalizing s with
  | nil =>
      rfl
  | cons a as ih =>
      simp only [List.cons_append, along, List.foldl_cons, ih, List.append_assoc]

/-- Calls lead along a row of things to do, if they do so at each of them. The invariant `I` is of the
state and of what is still to be done. -/
theorem leads_along {f : σ → Record} {I : σ → List α → Prop}
    (leads : ∀ {s a as}, I s (a :: as) → (f s).Leads (calls s a) (f (step s a)))
    (keeps : ∀ {s a as}, I s (a :: as) → I (step s a) as) (start : I s as) :
    (f s).Leads (along calls step s as) (f (as.foldl step s)) := by
  induction as generalizing s with
  | nil =>
      exact .done (f s)
  | cons a as ih =>
      exact (leads start).append (ih (keeps start))

/-- A flag that is set just by writing is set along a row of things to do exactly if something is
written. -/
theorem flag_along {flag : σ → Bool}
    (each : ∀ s a, flag (step s a) = true ↔ flag s = true ∨ ∃ l v, Call.write l v ∈ calls s a) :
    flag (as.foldl step s) = true ↔
      flag s = true ∨ ∃ l v, Call.write l v ∈ along calls step s as := by
  induction as generalizing s with
  | nil =>
      simp [along]
  | cons a as ih =>
      rw [List.foldl_cons, ih, each, along]
      simp only [List.mem_append, exists_or, or_assoc]

end Call

/-! ## One call -/

namespace Json

variable {t d : Json} {i : Nat} {ms : Members}

theorem exists_replaceData? (data : t.dataBlock? = some d) (d' : Json) :
    ∃ t', t.replaceData? d' = some t' ∧ t.replace? [.key "data"] d' = some t' := by
  have member : t.get? [.key "data"] = some d := by
    simp [get?_cons, child?, (present?_eq_some.1 data).1]
  rcases exists_replace? member d' with ⟨t', replaced⟩
  exact ⟨t', by simp only [replaceData?, data, replaced], replaced⟩

theorem exists_relabelEntry? (there : t.get? (entryLocation i) = some (.obj ms)) (label : Relabel) :
    ∃ t', t.relabelEntry? i label = some t' ∧
      t'.get? (entryLocation i) = some (.obj (label.apply ms)) := by
  rcases exists_replace? there (.obj (label.apply ms)) with ⟨t', replaced⟩
  exact ⟨t', by simp only [there, relabelEntry?, replaced], get?_replace?_self replaced⟩

end Json

namespace Record

variable {r r' : Record} {d d' v : Json} {l : Location} {i : Nat} {ms : Members} {label : Relabel}
  {c : Call}

/-- A write finds its place in data that have one. -/
theorem perform_write (data : r.tree.dataBlock? = some d) (written : d.replace? l v = some d') :
    r.perform (.write l v) = ((r.replaceData d').1, true) := by
  rcases exists_replaceData? data d' with ⟨t', replaced, -⟩
  simp only [perform, writeData, data, Option.bind_some, written, replaceData, replaced]

theorem perform_relabel (there : r.tree.get? (entryLocation i) = some (.obj ms)) (label : Relabel) :
    r.perform (.relabel i label) = ((r.relabelEntry i label).1, true) := by
  rcases exists_relabelEntry? there label with ⟨t', replaced, -⟩
  simp only [perform, relabelEntry, replaced]

/-- A call that has found what it is to change has changed it. -/
theorem shows_of_perform (made : r.perform c = (r', true)) : r'.Shows c := by
  cases c with
  | markProcessed =>
      obtain rfl := (Prod.mk.inj made).1
      cases status : r.status <;> simp [Shows, markProcessed, status, Status.merge, Status.rank]
  | addError message =>
      obtain rfl := (Prod.mk.inj made).1
      exact ⟨by simp [addError], Status.merge_eq_error.2 (Or.inr rfl)⟩
  | write l v =>
      cases data : r.tree.dataBlock? with
      | none =>
          simp [perform, writeData, data] at made
      | some d =>
          cases written : d.replace? l v with
          | none =>
              simp [perform, writeData, data, written] at made
          | some d' =>
              rcases exists_replaceData? data d' with ⟨t', replaced, placed⟩
              obtain rfl : { r with tree := t' } = r' := by
                simpa [perform, writeData, data, written, replaceData, replaced] using made
              show t'.get? ([.key "data"] ++ l) = some v
              calc
                t'.get? ([.key "data"] ++ l) = d'.get? l := get?_replace?_append placed l
                _ = some v := get?_replace?_self written
  | relabel i label =>
      cases there : r.tree.get? (entryLocation i) with
      | none =>
          simp [perform, relabelEntry, relabelEntry?, there] at made
      | some v =>
          cases v with
          | obj ms =>
              rcases exists_relabelEntry? there label with ⟨t', replaced, shown⟩
              obtain rfl : { r with tree := t' } = r' := by
                simpa [perform, relabelEntry, replaced] using made
              exact ⟨label.apply ms, shown, Relabel.get?_apply_reference,
                fun name named => Relabel.get?_apply_name named⟩
          | _ =>
              simp [perform, relabelEntry, relabelEntry?, there] at made

end Record
end RefFrame
