import RefFrame.Proofs.Record.History
import RefFrame.Proofs.Record.Run

/-!
# Passes worked on the record itself

`Record.run` adds to a record, all at once, what a pass makes of its tree. `Record.work` does the pass
step by step on the record: a value is read from the record and written back to it, a message is added
when it arises, and an entry is relabelled at the end of its turn. Both come to the same record
(`Record.work_eq_run`).

So a pass does not look at what has been said of a record before, and takes nothing of it back: it
appends its own messages and strengthens the outcome by its own, and passes one after the other are
put together in that way (`Record.normalize_eq_merge`).
-/

namespace RefFrame

open Json Location

/-! ## Working on a record -/

/-- A record while the values of one of its entries are converted. -/
structure Handling where
  record : Record
  /-- Some value of the entry has been replaced. -/
  converted : Bool
  /-- Some value of the entry has been refused. -/
  refused : Bool

namespace Handling

def report (h : Handling) (i : Issue) : Handling :=
  { h with record := h.record.addError i.message }

/-- Writes a value at a place of the record's data. -/
def write (h : Handling) (l : Location) (v : Json) : Handling :=
  match h.record.tree.dataBlock? with
  | some d =>
    { h with record := (h.record.replaceData ((d.replace? l v).getD d)).1, converted := true }
  | none => { h with converted := true }

/-- Whether the rest of the entry is to be left as it is. -/
def isOver (c : Conversion) (h : Handling) : Bool :=
  c.stopsAtRefusal && h.refused

def handleMatch (c : Conversion) (name : String) (h : Handling) (m : Match) : Handling :=
  if h.isOver c then h
  else
    match c.judge name m.value with
    | .replace v => h.write m.location v
    | .missing => h.report (.missingProperty c.pass name)
    | .refuse i => { h.report i with refused := true }

/-- What a name addresses in the data that the record has at this moment. -/
def matchesOf (h : Handling) (name : String) : List Match :=
  match h.record.tree.dataBlock? with
  | some d => d.matchesOf name
  | none => []

def handleName (c : Conversion) (h : Handling) (name : String) : Handling :=
  if h.isOver c then h
  else
    match h.matchesOf name with
    | [] => h.report (.missingProperty c.pass name)
    | ms => ms.foldl (handleMatch c name) h

end Handling

namespace Record

section

variable [JsonLibrary] [ZoneLibrary]

/-- Deals with one entry: an issue with the entry itself, or its values and then its labels. -/
def workEntry (p : Pass) (r : Record) (e : MetaEntry) : Record :=
  match p.plan e with
  | .error i => r.addError i.message
  | .ok (names, c) =>
    let done := names.foldl (Handling.handleName c) ⟨r, false, false⟩
    if done.converted && !done.refused then (done.record.relabelEntry e.index c.relabel).1
    else done.record

def workEntries (p : Pass) (r : Record) (es : List MetaEntry) : Record :=
  (es.filter fun e => e.kind = p.entryKind).foldl (workEntry p) r

/-- Does a pass on a record, step by step. -/
def work (r : Record) : Pass → Record
  | .unit =>
    match r.tree.metaEntries? with
    | none => r
    | some es =>
      match r.tree.dataBlock? with
      | none => r.markProcessed
      | some _ => r.markProcessed.workEntries .unit es
  | .dateTime =>
    match r.tree.dataBlock? with
    | none => r.addError (Issue.missingData .dateTime).message
    | some _ =>
      match r.tree.metaEntries? with
      | none => r
      | some es => r.markProcessed.workEntries .dateTime es

end

end Record

/-! ## A walk put into a record -/

namespace Pass.Walk

/-- The record that a walk has come to: its data and labels are in the tree, its issues are added. -/
def on (w : Walk) (r : Record) : Record :=
  { w.issues.foldl (fun r i => r.addError i.message) r with tree := w.restore r.tree }

variable {w : Walk} {r : Record} {ms : Members} {vs : List Json} {d : Json}

theorem addError_on (w : Walk) (r : Record) (i : Issue) :
    (w.on r).addError i.message = { w with issues := w.issues ++ [i] }.on r := by
  simp only [on, List.foldl_append, List.foldl_cons, List.foldl_nil]
  rfl

theorem relabelEntry_on (w : Walk) (r : Record) (i : Nat) (label : Relabel) :
    ((w.on r).relabelEntry i label).1 =
      { w with relabels := w.relabels ++ [(i, label)] }.on r := by
  have restored : { w with relabels := w.relabels ++ [(i, label)] }.restore r.tree =
      (Json.relabelEntry? (w.restore r.tree) i label).getD (w.restore r.tree) := by
    simp [restore]
  rw [on, on, restored, Record.relabelEntry]
  cases Json.relabelEntry? (w.restore r.tree) i label <;> rfl

theorem dataBlock?_on (tree : r.tree = .obj ms) (entries : ms.get? "meta" = some (.arr vs))
    (data : r.tree.dataBlock? = some d) (present : w.data ≠ .null) :
    (w.on r).tree.dataBlock? = some w.data := by
  rw [tree] at data
  rw [on, tree, restore_obj entries data]
  refine present?_eq_some.2 ⟨?_, present⟩
  rw [member?, Members.get?_insert_of_ne (by decide), Members.get?_insert_self]

theorem replaceData_on (tree : r.tree = .obj ms) (entries : ms.get? "meta" = some (.arr vs))
    (data : r.tree.dataBlock? = some d) (present : w.data ≠ .null) (d' : Json) :
    ((w.on r).replaceData d').1 = { w with data := d' }.on r := by
  have there := dataBlock?_on tree entries data present
  rw [tree] at data
  have listed : "meta" ∈ Members.keys (ms.insert "data" w.data) := by
    apply Members.mem_keys_of_get? (v := .arr vs)
    rw [Members.get?_insert_of_ne (by decide), entries]
  -- The data block lies beside the entries: it can be put in before them or after them.
  have moved (vs' : List Json) :
      ((ms.insert "data" w.data).insert "meta" (.arr vs')).insert "data" d' =
        (ms.insert "data" d').insert "meta" (.arr vs') := by
    rw [Members.insert_comm (by decide) listed, Members.insert_insert]
  have replaced : (w.on r).tree.replaceData? d' = some ({ w with data := d' }.restore r.tree) := by
    have found := (present?_eq_some.1 there).1
    simp only [replaceData?, there, replace?_cons, child?, found, Option.bind_some, replace?_nil]
    simp only [on, tree, restore_obj entries data, setChild, moved]
  rw [Record.replaceData, replaced]
  rfl

end Pass.Walk

/-! ## The same conversion in both forms -/

namespace Progress

variable {c : Conversion} {q : Pass} {p : Progress} {name : String} {names : List String} {m : Match}
  {matched : List Match} {w : Pass.Walk} {r : Record} {ms : Members} {vs : List Json} {d : Json}

/-- The record in which an entry has come as far as `p` says, after the entries of a walk. -/
def within (p : Progress) (w : Pass.Walk) (r : Record) : Handling :=
  ⟨(Pass.Walk.mk p.data (w.issues ++ p.issues) w.relabels).on r, p.converted, p.refused⟩

theorem within_start : (start w.data).within w r = ⟨w.on r, false, false⟩ := by
  simp [within, start]

theorem isOver_within (p : Progress) : (p.within w r).isOver c = p.isOver c := rfl

theorem report_within (p : Progress) (i : Issue) :
    (p.within w r).report i = (p.report i).within w r := by
  simp only [within, Handling.report, report, Pass.Walk.addError_on, List.append_assoc]

section

variable (tree : r.tree = .obj ms) (entries : ms.get? "meta" = some (.arr vs))
  (data : r.tree.dataBlock? = some d)

include tree entries data

theorem dataBlock?_within (present : p.data ≠ .null) :
    (p.within w r).record.tree.dataBlock? = some p.data :=
  Pass.Walk.dataBlock?_on (w := ⟨p.data, w.issues ++ p.issues, w.relabels⟩) tree entries data present

theorem write_within (present : p.data ≠ .null) (l : Location) (v : Json) :
    (p.within w r).write l v = (p.write l v).within w r := by
  have replaced := Pass.Walk.replaceData_on (w := ⟨p.data, w.issues ++ p.issues, w.relabels⟩) tree
    entries data present ((p.data.replace? l v).getD p.data)
  rw [Handling.write, dataBlock?_within tree entries data present]
  simp only [within, write, replaced]

theorem handleMatch_within (present : p.data ≠ .null) :
    (p.within w r).handleMatch c name m = (p.convertMatch c name m).within w r := by
  by_cases ended : p.isOver c = true
  · simp [Handling.handleMatch, isOver_within, convertMatch, ended]
  · simp only [Handling.handleMatch, isOver_within, convertMatch, ended, carryOut]
    cases c.judge name m.value with
    | replace v =>
        exact write_within tree entries data present m.location v
    | missing =>
        exact report_within p _
    | refuse i =>
        simp only [report_within]
        rfl

/-- The matches of a name. The data stay a block on the way, so that each step finds them. -/
theorem handleMatches_within (sound : c.Sound q) (fresh : Fresh p.data matched)
    (present : p.data ≠ .null) :
    matched.foldl (Handling.handleMatch c name) (p.within w r) =
      (matched.foldl (convertMatch c name) p).within w r := by
  induction matched generalizing p with
  | nil =>
      rfl
  | cons m matched ih =>
      have step : Altered q (· = m.location) p.data (p.convertMatch c name m).data :=
        altered_convertMatch sound (fresh.there m List.mem_cons_self)
      rw [List.foldl_cons, handleMatch_within tree entries data present]
      exact ih (fresh.step c name) (step.ne_null present)

theorem handleName_within (sound : c.Sound q) (present : p.data ≠ .null) :
    (p.within w r).handleName c name = (p.convertName c name).within w r := by
  have found : (p.within w r).matchesOf name = p.data.matchesOf name := by
    simp only [Handling.matchesOf, dataBlock?_within tree entries data present]
  by_cases ended : p.isOver c = true
  · simp [Handling.handleName, isOver_within, convertName, ended]
  · simp only [Handling.handleName, isOver_within, convertName, ended, found]
    cases matches_eq : p.data.matchesOf name with
    | nil =>
        exact report_within p _
    | cons m matched =>
        have fresh := fresh_matchesOf p.data name
        rw [matches_eq] at fresh
        exact handleMatches_within tree entries data sound fresh present

theorem handleNames_within (sound : c.Sound q) (present : p.data ≠ .null) :
    names.foldl (Handling.handleName c) (p.within w r) = (p.convertNames c names).within w r := by
  induction names generalizing p with
  | nil =>
      rfl
  | cons name names ih =>
      rw [List.foldl_cons, handleName_within tree entries data sound present]
      exact ih ((altered_convertName sound p name).ne_null present)

end

end Progress

namespace Record

variable {p : Pass} {w : Pass.Walk} {r : Record} {e : MetaEntry} {es : List MetaEntry} {ms : Members}
  {vs : List Json} {d : Json}

section

variable (tree : r.tree = .obj ms) (entries : ms.get? "meta" = some (.arr vs))
  (data : r.tree.dataBlock? = some d)

include tree entries data

theorem handleNames_on {c : Conversion} (sound : c.Sound p) (present : w.data ≠ .null)
    (names : List String) :
    names.foldl (Handling.handleName c) ⟨w.on r, false, false⟩ =
      ((Progress.start w.data).convertNames c names).within w r := by
  rw [← Progress.within_start]
  exact Progress.handleNames_within tree entries data sound present

theorem workEntry_on [JsonLibrary] [ZoneLibrary] (present : w.data ≠ .null) :
    workEntry p (w.on r) e = (p.convertEntry w e).on r := by
  cases planned : p.plan e with
  | error i =>
      simp only [workEntry, Pass.convertEntry, planned, Pass.Walk.addError_on]
  | ok plan =>
      rcases plan with ⟨names, c⟩
      have done := handleNames_on tree entries data (Pass.sound_plan planned) present names
      simp only [workEntry, Pass.convertEntry, planned, done]
      -- The entry is relabelled at the end of its turn, by the same test in both forms.
      generalize (Progress.start w.data).convertNames c names = q
      cases converted : q.converted <;> cases refused : q.refused <;>
        simp [Progress.within, Progress.relabel?, converted, refused, Pass.Walk.relabelEntry_on]

theorem workRow_on [JsonLibrary] [ZoneLibrary] (present : w.data ≠ .null) :
    es.foldl (workEntry p) (w.on r) = (es.foldl (Pass.convertEntry p) w).on r := by
  induction es generalizing w with
  | nil =>
      rfl
  | cons e es ih =>
      rw [List.foldl_cons, workEntry_on tree entries data present]
      exact ih ((Pass.altered_convertEntry p w e).ne_null present)

/-- Putting in the data that are there changes nothing. -/
theorem start_on : (Pass.Walk.mk d [] []).on r = r := by
  have there : (Json.obj ms).dataBlock? = some d := tree ▸ data
  have same : (Pass.Walk.mk d [] []).restore (obj ms) = obj ms := by
    rw [Pass.Walk.restore_obj entries there, Members.insert_eq_self (present?_eq_some.1 there).1,
      List.foldl_nil, Members.insert_eq_self entries]
  rw [Pass.Walk.on, tree, same, ← tree]
  rfl

theorem workEntries_eq [JsonLibrary] [ZoneLibrary] (es : List MetaEntry) :
    r.workEntries p es = (p.convertEntries es d).on r := by
  have present : d ≠ .null := (present?_eq_some.1 data).2
  rw [workEntries, Pass.convertEntries]
  conv_lhs => rw [← start_on tree entries data]
  exact workRow_on tree entries data present

end

section

variable [JsonLibrary] [ZoneLibrary]

/-- Working on a record step by step comes to the same as adding the outcome of the pass to it. -/
theorem work_eq_run (r : Record) (p : Pass) : r.work p = r.run p := by
  cases entries : r.tree.metaEntries? with
  | none =>
      cases data : r.tree.dataBlock? <;> cases p <;>
        simp [work, run, Pass.run, entries, data, absorb_eq, addError]
  | some es =>
      cases data : r.tree.dataBlock? with
      | none =>
          cases p <;>
            simp [work, run, Pass.run, entries, data, absorb_eq, addError, markProcessed]
      | some d =>
          rcases metaEntries?_eq_some.1 entries with ⟨ms, vs, tree, listed, -⟩
          have worked : r.work p = r.markProcessed.workEntries p es := by
            cases p <;> simp [work, entries, data]
          have outcome : p.run r.tree = p.convert r.tree es d := by
            cases p <;> simp [Pass.run, entries, data]
          rw [worked, workEntries_eq (r := r.markProcessed) tree listed data, run, absorb_eq, outcome]
          rfl

/-! ## One pass after the other -/

/-- A pass appends to what has been said of a record what it would say of the tree alone, and makes the
same tree of it. -/
theorem run_eq_merge (r : Record) (p : Pass) :
    r.run p = ⟨((fresh r.tree).run p).tree, r.messages ++ ((fresh r.tree).run p).messages,
      r.status.merge ((fresh r.tree).run p).status⟩ := by
  simp [run, absorb, fresh]

/-- Both passes over a tree come to what the second makes of the first one's tree alone, with the
messages of the two in this order and the stronger of the two outcomes. And every pass over every
record, worked on the record step by step, comes to what it makes of the tree alone, put together with
what has been said before in the same way. -/
theorem normalize_eq_merge (t : Json) :
    (let u := (fresh t).run .unit
     let v := (fresh u.tree).run .dateTime
     (fresh t).normalize ⟨true, true⟩ =
       ⟨v.tree, u.messages ++ v.messages, u.status.merge v.status⟩) ∧
      ∀ (r : Record) (p : Pass),
        r.run p = r.work p ∧
          r.work p =
            ⟨((fresh r.tree).work p).tree, r.messages ++ ((fresh r.tree).work p).messages,
              r.status.merge ((fresh r.tree).work p).status⟩ := by
  constructor
  · calc
      (fresh t).normalize ⟨true, true⟩ = ((fresh t).run .unit).run .dateTime := rfl
      _ = _ := run_eq_merge _ _
  · intro r p
    refine ⟨(work_eq_run r p).symm, ?_⟩
    rw [work_eq_run, work_eq_run]
    exact run_eq_merge r p

end

end Record
end RefFrame
