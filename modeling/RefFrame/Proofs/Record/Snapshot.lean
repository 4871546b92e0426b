import Mathlib.Data.List.TakeWhile
import RefFrame.Proofs.Record.EveryCall
import RefFrame.Proofs.Record.Independence

/-!
# The turn of an entry, told from the data before it

The names of an entry are resolved one after the other, each in the data as the names before it have
left them, and values are written in between. If no two of the places that the entry addresses get in
each other's way, this comes to the same as looking everything up beforehand: the items of the entry
(`Item.ofNames`) are read off the data as its turn finds them, they are taken one after the other up to
the first refusal that ends the entry (`Conversion.taken`), and each of them is a write or an issue
(`Progress.foldl_handle`).

`Record.turned_of_visits` says so of the record in which a pass comes to an entry, and of what the turn
of the entry makes of it.
-/

namespace RefFrame

open Json Location

/-! ## Items -/

/-- One thing that an entry has to deal with: a value that one of its names leads to or, if a name leads
nowhere, the name alone. -/
structure Item where
  name : String
  found : Option Match

namespace Item

/-- Nothing is there, or a `null`. -/
def isMissing (i : Item) : Bool :=
  match i.found with
  | some m => m.value.isNull
  | none => true

/-- What a name leads to, in the order of its matches. -/
def ofName (d : Json) (name : String) : List Item :=
  match d.matchesOf name with
  | [] => [⟨name, none⟩]
  | ms => ms.map fun m => ⟨name, some m⟩

/-- What the names of an entry lead to, name by name. -/
def ofNames (d : Json) (names : List String) : List Item :=
  names.flatMap (ofName d)

variable {d : Json} {name : String} {names : List String}

theorem filterMap_found_ofName (d : Json) (name : String) :
    (ofName d name).filterMap found = d.matchesOf name := by
  unfold ofName
  cases d.matchesOf name with
  | nil =>
      rfl
  | cons m ms =>
      simp

theorem filterMap_found_ofNames (d : Json) (names : List String) :
    (ofNames d names).filterMap found = names.flatMap d.matchesOf := by
  simp only [ofNames, List.filterMap_flatMap, filterMap_found_ofName]

/-- Items whose places are pairwise apart can be dealt with one after the other. -/
theorem fresh_ofNames (apart : (names.flatMap d.locationsOf).Pairwise Apart) :
    Progress.Fresh d ((ofNames d names).filterMap found) := by
  rw [filterMap_found_ofNames]
  constructor
  · intro m mem
    rcases List.mem_flatMap.1 mem with ⟨name, -, found⟩
    exact get?_of_mem_matchesOf found
  · rw [← List.pairwise_map, List.map_flatMap]
    exact apart

end Item

namespace Conversion

variable {c : Conversion} {i : Item} {is : List Item}

/-- What is to become of an item. -/
def verdict (c : Conversion) (i : Item) : Verdict :=
  match i.found with
  | some m => c.judge i.name m.value
  | none => .missing

/-- The value that an item is to get, with its place. -/
def write? (c : Conversion) (i : Item) : Option (Location × Json) :=
  match i.found, c.verdict i with
  | some m, .replace v => some (m.location, v)
  | _, _ => none

/-- The issue that an item raises. -/
def issue? (c : Conversion) (i : Item) : Option Issue :=
  match c.verdict i with
  | .replace _ => none
  | .missing => some (.missingProperty c.pass i.name)
  | .refuse issue => some issue

def refuses (c : Conversion) (i : Item) : Bool :=
  match c.verdict i with
  | .refuse _ => true
  | _ => false

/-- The items that have a turn: all of them, or those up to the first refusal and that one too. -/
def taken (c : Conversion) (is : List Item) : List Item :=
  if c.stopsAtRefusal then is.takeWhile (fun i => !c.refuses i) ++ (is.find? c.refuses).toList else is

/-- What is written for items, in their order. -/
def writes (c : Conversion) (is : List Item) : List (Location × Json) :=
  (c.taken is).filterMap c.write?

/-- The issues that items raise, in their order. -/
def issues (c : Conversion) (is : List Item) : List Issue :=
  (c.taken is).filterMap c.issue?

/-- The new labels of an entry with the items: something has to be written, and nothing refused. -/
def label? (c : Conversion) (is : List Item) : Option Relabel :=
  if (is.any fun i => (c.write? i).isSome) && !is.any c.refuses then some c.relabel else none

theorem taken_cons :
    c.taken (i :: is) = i :: if c.stopsAtRefusal && c.refuses i then [] else c.taken is := by
  unfold taken
  cases c.stopsAtRefusal with
  | false =>
      rfl
  | true =>
      cases refused : c.refuses i <;> simp [refused]

theorem sublist_taken : (c.taken is).Sublist is := by
  induction is with
  | nil =>
      simp [taken]
  | cons i is ih =>
      rw [taken_cons]
      split
      · exact (List.nil_sublist is).cons_cons i
      · exact ih.cons_cons i

theorem any_refuses_taken : (c.taken is).any c.refuses = is.any c.refuses := by
  induction is with
  | nil =>
      simp [taken]
  | cons i is ih =>
      rw [taken_cons, List.any_cons, List.any_cons]
      cases refused : c.refuses i with
      | true =>
          rfl
      | false =>
          simp [ih]

theorem taken_of_any_eq_false (h : is.any c.refuses = false) : c.taken is = is := by
  have none_refused : ∀ i ∈ is, c.refuses i = false := by simpa using h
  unfold taken
  split
  · rw [List.takeWhile_eq_self_iff.2 fun i mem => by simp [none_refused i mem],
      List.find?_eq_none.2 fun i mem => by simp [none_refused i mem]]
    simp
  · rfl

/-- The items with a turn decide on the labels as all of them do. -/
theorem label?_eq_taken : c.label? is =
    if ((c.taken is).any fun i => (c.write? i).isSome) && !(c.taken is).any c.refuses then
      some c.relabel
    else none := by
  rw [label?, any_refuses_taken]
  cases refused : is.any c.refuses with
  | true =>
      simp
  | false =>
      rw [taken_of_any_eq_false refused]

theorem exists_found_of_write? {w : Location × Json} (h : c.write? i = some w) :
    ∃ m, i.found = some m ∧ w.1 = m.location := by
  unfold write? at h
  split at h
  · rename_i m v there _
    obtain rfl : (m.location, v) = w := Option.some.inj h
    exact ⟨m, there, rfl⟩
  · cases h

end Conversion

namespace Progress

variable {c : Conversion} {q : Pass} {p : Progress} {name name' : String} {names : List String}
  {i : Item} {is : List Item} {d : Json}

/-! ## The items one after the other -/

/-- Deals with an item. -/
def handle (c : Conversion) (p : Progress) (i : Item) : Progress :=
  match i.found with
  | some m => p.convertMatch c i.name m
  | none => if p.isOver c then p else p.report (.missingProperty c.pass i.name)

theorem foldl_handle_of_isOver (h : p.isOver c = true) : is.foldl (handle c) p = p := by
  induction is with
  | nil =>
      rfl
  | cons i is ih =>
      have first : p.handle c i = p := by
        unfold handle
        cases i.found with
        | none =>
            simp [h]
        | some m =>
            exact convertMatch_of_isOver h
      rw [List.foldl_cons, first, ih]

/-- A name is dealt with item by item. -/
theorem convertName_eq_foldl (c : Conversion) (p : Progress) (name : String) :
    p.convertName c name = (Item.ofName p.data name).foldl (handle c) p := by
  by_cases ended : p.isOver c = true
  · rw [foldl_handle_of_isOver ended]
    simp [convertName, ended]
  · unfold convertName Item.ofName
    cases p.data.matchesOf name with
    | nil =>
        simp [ended, handle]
    | cons m ms =>
        simp only [ended, Bool.false_eq_true, if_false, List.foldl_map]
        rfl

/-- Another name leads to the same matches after a name whose places are apart from its own. -/
theorem matchesOf_convertName (sound : c.Sound q)
    (apart : ∀ l ∈ p.data.locationsOf name, ∀ l' ∈ p.data.locationsOf name', Apart l l') :
    (p.convertName c name).data.matchesOf name' = p.data.matchesOf name' := by
  have places : (p.convertName c name).data.locationsOf name' = p.data.locationsOf name' :=
    ((altered_convertName sound p name).sameShape.locationsOf_eq name').symm
  rw [matchesOf_eq, matchesOf_eq p.data, places]
  apply List.map_congr_left
  intro l' at_l'
  rw [get?_convertName_of_apart fun l at_l => apart l at_l l' at_l']

/-- With all places apart, the names of an entry are dealt with item by item, as the items are found in
the data before the first of them. -/
theorem convertNames_eq_foldl (sound : c.Sound q)
    (apart : (names.flatMap p.data.locationsOf).Pairwise Apart) :
    p.convertNames c names = (Item.ofNames p.data names).foldl (handle c) p := by
  induction names generalizing p with
  | nil =>
      rfl
  | cons name names ih =>
      rw [List.flatMap_cons, List.pairwise_append] at apart
      rcases apart with ⟨-, later, between⟩
      have step := altered_convertName sound p name
      have places : names.flatMap (p.convertName c name).data.locationsOf =
          names.flatMap p.data.locationsOf :=
        List.flatMap_congr fun name' _ => (step.sameShape.locationsOf_eq name').symm
      -- What the first name writes is apart from all that the others look up.
      have items : Item.ofNames (p.convertName c name).data names = Item.ofNames p.data names := by
        refine List.flatMap_congr ?_
        intro name' mem
        have same : (p.convertName c name).data.matchesOf name' = p.data.matchesOf name' := by
          apply matchesOf_convertName sound
          intro l at_l l' at_l'
          exact between l at_l l' (List.mem_flatMap.2 ⟨name', mem, at_l'⟩)
        simp only [Item.ofName, same]
      calc
        p.convertNames c (name :: names) = (p.convertName c name).convertNames c names := rfl
        _ = (Item.ofNames p.data names).foldl (handle c) (p.convertName c name) := by
          rw [ih (places ▸ later), items]
        _ = (Item.ofNames p.data (name :: names)).foldl (handle c) p := by
          rw [convertName_eq_foldl, Item.ofNames, Item.ofNames, List.flatMap_cons, List.foldl_append]

/-! ## The items all at once -/

theorem Fresh.sublist {ms ms' : List Match} (h : Fresh d ms) (fewer : ms'.Sublist ms) :
    Fresh d ms' :=
  ⟨fun m mem => h.there m (fewer.subset mem), h.apart.sublist fewer⟩

theorem handle_cases (c : Conversion) (going : p.isOver c = false) (i : Item) :
    (∃ m v, i.found = some m ∧ c.verdict i = .replace v ∧ p.handle c i = p.write m.location v) ∨
      (c.verdict i = .missing ∧ p.handle c i = p.report (.missingProperty c.pass i.name)) ∨
        ∃ issue, c.verdict i = .refuse issue ∧ p.handle c i = p.refuse issue := by
  rcases i with ⟨name, _ | m⟩
  · exact Or.inr (Or.inl ⟨rfl, by simp [handle, going]⟩)
  · have handled : p.handle c ⟨name, some m⟩ = p.carryOut c name m := by
      simp [handle, convertMatch, going]
    rw [handled]
    rcases carryOut_cases c name p m with ⟨v, verdict, done⟩ | missing | refused
    · exact Or.inl ⟨m, v, rfl, verdict, done⟩
    · exact Or.inr (Or.inl missing)
    · exact Or.inr (Or.inr refused)

/-- Dealing with fresh items one after the other is a row of writes and a row of issues, taken from the
items that have a turn. -/
theorem foldl_handle (going : p.isOver c = false) (fresh : Fresh p.data (is.filterMap Item.found)) :
    ∃ d', p.data.replaceEach? (c.writes is) = some d' ∧
      is.foldl (handle c) p =
        { data := d'
          issues := p.issues ++ c.issues is
          converted := p.converted || (c.taken is).any fun i => (c.write? i).isSome
          refused := p.refused || (c.taken is).any c.refuses } := by
  induction is generalizing p with
  | nil =>
      refine ⟨p.data, ?_, ?_⟩
      · simp [Conversion.writes, Conversion.taken, replaceEach?]
      · simp [Conversion.issues, Conversion.taken]
  | cons i is ih =>
      have later : Fresh p.data (is.filterMap Item.found) :=
        fresh.sublist ((List.sublist_cons_self i is).filterMap Item.found)
      simp only [Conversion.writes, Conversion.issues] at ih ⊢
      rw [Conversion.taken_cons, List.foldl_cons]
      rcases handle_cases c going i with ⟨m, v, there, verdict, done⟩ | ⟨verdict, done⟩ |
        ⟨issue, verdict, done⟩
      · -- A write leaves the items to come as they are, since their places are apart from it.
        rw [List.filterMap_cons_some there] at fresh
        have written : p.data.replace? m.location v = some (p.write m.location v).data :=
          data_write (fresh.there m List.mem_cons_self) v
        have fresh' : Fresh (p.write m.location v).data (is.filterMap Item.found) := by
          have stepped := fresh.step c i.name
          have same : p.convertMatch c i.name m = p.write m.location v := by
            rw [← done, handle, there]
          rwa [same] at stepped
        have going' : (p.write m.location v).isOver c = false := going
        rcases ih going' fresh' with ⟨d', row, result⟩
        refine ⟨d', ?_, ?_⟩
        · simpa [Conversion.write?, Conversion.refuses, there, verdict, replaceEach?, written] using row
        · rw [done, result]
          simp [Conversion.write?, Conversion.issue?, Conversion.refuses, there, verdict, write]
      · have going' : (p.report (.missingProperty c.pass i.name)).isOver c = false := going
        rcases ih going' later with ⟨d', row, result⟩
        refine ⟨d', ?_, ?_⟩
        · simpa [Conversion.write?, Conversion.refuses, verdict, report] using row
        · rw [done, result]
          simp [Conversion.write?, Conversion.issue?, Conversion.refuses, verdict, report]
      · by_cases stops : c.stopsAtRefusal = true
        · -- The rest of the items is passed over.
          have ended : (p.refuse issue).isOver c = true := by simp [isOver, refuse, stops]
          refine ⟨p.data, ?_, ?_⟩
          · simp [Conversion.write?, Conversion.refuses, verdict, stops, replaceEach?]
          · rw [done, foldl_handle_of_isOver ended]
            simp [Conversion.write?, Conversion.issue?, Conversion.refuses, verdict, stops, refuse,
              report]
        · have going' : (p.refuse issue).isOver c = false := by simp [isOver, stops]
          rcases ih going' later with ⟨d', row, result⟩
          refine ⟨d', ?_, ?_⟩
          · simpa [Conversion.write?, Conversion.refuses, verdict, stops, refuse, report] using row
          · rw [done, result]
            simp [Conversion.write?, Conversion.issue?, Conversion.refuses, verdict, stops, refuse,
              report]

/-- The writes for fresh items do not get in each other's way. -/
theorem exists_written (fresh : Fresh d (is.filterMap Item.found)) :
    ∃ d', d.replaceEach? (c.writes is) = some d' ∧ Written (c.writes is) d d' := by
  have fresh' : Fresh d ((c.taken is).filterMap Item.found) :=
    fresh.sublist (Conversion.sublist_taken.filterMap Item.found)
  refine exists_replaceEach? ?_ ?_
  · intro w mem
    rcases List.mem_filterMap.1 mem with ⟨i, turn, write⟩
    rcases Conversion.exists_found_of_write? write with ⟨m, found, place⟩
    have there := fresh'.there m (List.mem_filterMap.2 ⟨i, turn, found⟩)
    simp [place, there]
  · refine List.pairwise_filterMap.2 ((List.pairwise_filterMap.1 fresh'.apart).imp ?_)
    intro i i' apart w write w' write'
    rcases Conversion.exists_found_of_write? write with ⟨m, found, place⟩
    rcases Conversion.exists_found_of_write? write' with ⟨m', found', place'⟩
    rw [place, place']
    exact apart m found m' found'

end Progress

/-! ## The turn of an entry in its record -/

theorem Status.merge_noFrame (s : Status) : s.merge .noFrame = s := by
  cases s <;> rfl

theorem Status.merge_error (s : Status) : s.merge .error = .error := by
  cases s <;> rfl

namespace Record

variable {p : Pass} {w : Pass.Walk} {r here : Record} {e : MetaEntry} {es : List MetaEntry}
  {ms : Members} {vs : List Json} {d d' : Json} {names : List String} {c : Conversion} {i : Nat}
  {issues : List Issue} {label? : Option Relabel}

/-- What the turn of an entry makes of a record: it has other data, the issues have been added in their
order, and the entry has new labels if there are any. Nothing else has changed. -/
structure Turned (r r' : Record) (index : Nat) (d' : Json) (issues : List Issue)
    (label? : Option Relabel) : Prop where
  tree : ∃ t, r.tree.replaceData? d' = some t ∧
    (match label? with
      | some label => t.relabelEntry? index label
      | none => some t) = some r'.tree
  messages : r'.messages = r.messages ++ issues.map Issue.message
  status : r'.status = if issues = [] then r.status else .error

/-- A member of the entry that the labels do not touch is kept. -/
theorem Turned.get?_member {r' : Record} {k : String} (turned : Turned r r' i d' issues label?)
    (reference : k ≠ "persistableReference")
    (name : ∀ label, label? = some label → label.name = none) :
    r'.tree.get? (entryLocation i ++ [.key k]) = r.tree.get? (entryLocation i ++ [.key k]) := by
  rcases turned.tree with ⟨t, replaced, labelled⟩
  -- The data lie beside the entries.
  have beside : t.get? (entryLocation i ++ [.key k]) = r.tree.get? (entryLocation i ++ [.key k]) := by
    simp only [replaceData?] at replaced
    split at replaced
    · exact get?_replace?_of_apart replaced (apart_cons_of_ne (by simp))
    · cases replaced
  rw [← beside]
  cases label? with
  | none =>
      rw [Option.some.inj labelled]
  | some label =>
      have relabelled : t.relabelEntry? i label = some r'.tree := labelled
      unfold relabelEntry? at relabelled
      split at relabelled
      · rename_i own there
        rw [get?_replace?_append relabelled, get?_append, there]
        simp only [Option.bind_some, get?_cons, child?, member?,
          Relabel.get?_apply_of_ne reference (Or.inr (name label rfl))]
      · cases relabelled

section

variable (tree : r.tree = .obj ms) (entries : ms.get? "meta" = some (.arr vs))
  (data : r.tree.dataBlock? = some d)

include tree entries data

/-- A walk that goes on to other data, more issues, and new labels for an entry that is an object. -/
theorem turned_on (present : w.data ≠ .null) {own : Members} (found : vs[i]? = some (.obj own))
    (d' : Json) (issues : List Issue) (label? : Option Relabel) :
    Turned (w.on r)
      ((Pass.Walk.mk d' (w.issues ++ issues)
        (w.relabels ++ (label?.map fun label => (i, label)).toList)).on r) i d' issues label? := by
  have block := Pass.Walk.dataBlock?_on (w := w) tree entries data present
  rcases exists_replaceData? block d' with ⟨t, replaced, -⟩
  have written : t = ((Pass.Walk.mk d' w.issues w.relabels).on r).tree := by
    rw [← Pass.Walk.replaceData_on tree entries data present, replaceData, replaced]
  refine ⟨⟨t, replaced, ?_⟩, ?_, ?_⟩
  · cases label? with
    | none =>
        rw [written, Option.map_none, Option.toList_none, List.append_nil]
        rfl
    | some label =>
        rcases exists_entry_on (w := ⟨d', w.issues, w.relabels⟩) tree entries data found with
          ⟨own', there⟩
        rcases exists_relabelEntry? there label with ⟨t', relabelled, -⟩
        have labelled := Pass.Walk.relabelEntry_on ⟨d', w.issues, w.relabels⟩ r i label
        rw [relabelEntry, relabelled] at labelled
        have same : t' = ((Pass.Walk.mk d' w.issues (w.relabels ++ [(i, label)])).on r).tree :=
          congrArg Record.tree labelled
        rw [written]
        exact relabelled.trans (congrArg some same)
  · simp [Pass.Walk.on, foldl_addError]
  · rw [Pass.Walk.on, Pass.Walk.on, List.foldl_append, foldl_addError _ issues]
    split
    · exact Status.merge_noFrame _
    · exact Status.merge_error _

end

/-! ## What a visit finds -/

section

variable [JsonLibrary] [ZoneLibrary]

/-- A pass comes to every entry of its kind. -/
theorem exists_visits (entries : r.tree.metaEntries? = some es)
    (data : r.tree.dataBlock?.isSome = true) (listed : e ∈ es) (kind : e.kind = p.entryKind) :
    ∃ here, Visits p r e here := by
  have own : e ∈ es.filter fun e => e.kind = p.entryKind := by simp [listed, kind]
  rcases List.append_of_mem own with ⟨before, after, split⟩
  exact ⟨_, es, before, after, entries, data, split, rfl⟩

/-- After the turn of an entry the pass goes on with the entries behind it. -/
theorem exists_run_of_visits (entries : r.tree.metaEntries? = some es) (h : Visits p r e here) :
    ∃ later, e :: later <:+ (es.filter fun e => e.kind = p.entryKind) ∧
      r.run p = later.foldl (workEntry p) (workEntry p here e) := by
  rcases h with ⟨es', before, after, entries', present, split, rfl⟩
  obtain rfl : es = es' := Option.some.inj (entries.symm.trans entries')
  rcases Option.isSome_iff_exists.1 present with ⟨d, data⟩
  refine ⟨after, ⟨before, split.symm⟩, ?_⟩
  have worked : r.work p = r.markProcessed.workEntries p es := by
    cases p <;> simp [work, entries, data]
  rw [← work_eq_run, worked, workEntries, split, List.foldl_append, List.foldl_cons]

theorem exists_dataBlock_of_visits (h : Visits p r e here) :
    ∃ d, here.tree.dataBlock? = some d := by
  rcases exists_walk_of_visits h with
    ⟨ms, vs, d, v, w, after, tree, array, data, -, -, rfl, present, -⟩
  exact ⟨w.data, Pass.Walk.dataBlock?_on (r := r.markProcessed) tree array data present⟩

/-- An entry with something wrong about itself has its one issue added, and nothing else happens. -/
theorem workEntry_of_plan_eq_error {issue : Issue} (faulty : p.plan e = .error issue) :
    workEntry p here e = here.addError issue.message := by
  simp only [workEntry, faulty]

/-- The turn of an entry, told by its items as its names find them in the data before it. -/
theorem turned_of_visits (h : Visits p r e here) (planned : p.plan e = .ok (names, c))
    (data : here.tree.dataBlock? = some d) (apart : (names.flatMap d.locationsOf).Pairwise Apart) :
    ∃ d', d.replaceEach? (c.writes (Item.ofNames d names)) = some d' ∧
      Written (c.writes (Item.ofNames d names)) d d' ∧
        Turned here (workEntry p here e) e.index d' (c.issues (Item.ofNames d names))
          (c.label? (Item.ofNames d names)) := by
  rcases exists_walk_of_visits h with
    ⟨ms, vs, d₀, v, w, after, tree, array, data₀, found, same, rfl, present, -⟩
  rw [← same] at planned
  rcases exists_members_of_plan planned with ⟨own, rfl⟩
  rw [same] at planned
  have block := Pass.Walk.dataBlock?_on (r := r.markProcessed) tree array data₀ present
  obtain rfl : w.data = d := Option.some.inj (block.symm.trans data)
  have fresh := Item.fresh_ofNames apart
  rcases Progress.exists_written (c := c) fresh with ⟨d', row, written⟩
  rcases Progress.foldl_handle (c := c) (p := .start w.data) (Bool.and_false _) fresh with
    ⟨d'', row', result⟩
  obtain rfl : d' = d'' := Option.some.inj (row.symm.trans row')
  refine ⟨d', row, written, ?_⟩
  have folded := Progress.convertNames_eq_foldl (p := .start w.data) (Pass.sound_plan planned) apart
  have turn : p.convertEntry w e = ⟨d', w.issues ++ c.issues (Item.ofNames w.data names),
      w.relabels ++
        ((c.label? (Item.ofNames w.data names)).map fun label => (e.index, label)).toList⟩ := by
    simp only [Pass.convertEntry, planned, folded]
    rw [Progress.start] at result ⊢
    rw [result]
    simp [Progress.relabel?, Conversion.label?_eq_taken]
  rw [workEntry_on (r := r.markProcessed) tree array data₀ present, turn]
  exact turned_on (r := r.markProcessed) tree array data₀ present found _ _ _

end

end Record
end RefFrame
