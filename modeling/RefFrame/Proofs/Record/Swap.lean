import RefFrame.Json.Exact
import RefFrame.Proofs.Record.Independence
import RefFrame.Zone.Table

/-!
# Entries in another order

Two neighbours in the array of entries may change places if they address nothing in common: the data
and the outcome are the same, the messages are the same but for their order, and the array comes out
with the two in their new places (`Record.normalize_swapEntries`).

The two are dealt with one after the other, so this is `Pass.deal_deal` with the entries before them
and after them carried along.
-/

namespace RefFrame

open Json Location

/-- A list with its elements at an index and right behind it in each other's places. -/
def swapAt {α : Type} : Nat → List α → List α
  | 0, x :: y :: rest => y :: x :: rest
  | i + 1, x :: rest => x :: swapAt i rest
  | _, xs => xs

example : swapAt 1 [1, 2, 3, 4] = [1, 3, 2, 4] := by
  rfl

/-- Two neighbours, if there are such, address nothing in common: no place of the one is a place of
the other, or above or below one. -/
def NeighboursApart (d : Json) (i : Nat) (vs : List Json) : Prop :=
  ∀ v v', vs[i]? = some v → vs[i + 1]? = some v' →
    ∀ l l', (MetaEntry.ofJson i v).Addresses d l → (MetaEntry.ofJson (i + 1) v').Addresses d l' →
      Apart l l'

namespace Json

/-- Neighbours among the entries of a record that address nothing in common in its data. -/
def EntriesApart (t : Json) (i : Nat) : Prop :=
  ∀ vs d, t.member? "meta" = some (.arr vs) → t.dataBlock? = some d → NeighboursApart d i vs

/-- The record with two neighbours among its entries in each other's places. -/
def swapEntries (t : Json) (i : Nat) : Json :=
  match t.member? "meta" with
  | some (arr vs) => t.setChild (.key "meta") (arr (swapAt i vs))
  | _ => t

variable {t : Json} {vs : List Json} {i : Nat}

theorem swapEntries_obj {ms : Members} (listed : ms.get? "meta" = some (.arr vs)) (i : Nat) :
    (obj ms).swapEntries i = obj (ms.insert "meta" (.arr (swapAt i vs))) := by
  simp [swapEntries, member?, listed, setChild]

theorem swapEntries_of_none (h : t.metaEntries? = none) : t.swapEntries i = t := by
  unfold swapEntries
  split
  · next vs listed =>
      simp [metaEntries?, listed] at h
  · rfl

theorem member?_data_swapEntries (t : Json) (i : Nat) :
    (t.swapEntries i).member? "data" = t.member? "data" := by
  cases entries : t.metaEntries? with
  | none =>
      rw [swapEntries_of_none entries]
  | some es =>
      rcases metaEntries?_eq_some.1 entries with ⟨ms, vs, rfl, listed, -⟩
      rw [swapEntries_obj listed]
      exact Members.get?_insert_of_ne (by decide)

end Json

variable {p : Pass} {vs : List Json} {v v' d d' t : Json} {i : Nat}

/-! ## The sweep -/

theorem NeighboursApart.tail (h : NeighboursApart d (i + 1) (v :: vs)) (same : SameShape d d') :
    NeighboursApart d' i vs := by
  intro v v' found found' l l' addressed addressed'
  refine h v v' (by simpa using found) (by simpa using found') l l' ?_ ?_
  · exact (MetaEntry.addresses_iff_of_sameShape same).2 addressed
  · exact (MetaEntry.addresses_iff_of_sameShape same).2 addressed'

namespace Pass

section

variable [JsonLibrary] [ZoneLibrary]

/-- The entries before the two leave the data in their shape, the two have the same turns in either
order, and those after them find the same data. -/
theorem sweep_swapAt (p : Pass) (i : Nat) (vs : List Json) (d : Json) (h : NeighboursApart d i vs) :
    (p.sweep (swapAt i vs) d).data = (p.sweep vs d).data ∧
      (p.sweep (swapAt i vs) d).entries = swapAt i (p.sweep vs d).entries ∧
        (p.sweep (swapAt i vs) d).issues.Perm (p.sweep vs d).issues := by
  fun_induction swapAt i vs generalizing d with
  | case1 v v' rest =>
      have first := deal_deal p (h v v' rfl rfl)
      have second := deal_deal p fun l' l addressed' addressed =>
        (h v v' rfl rfl l l' addressed addressed').symm
      have data : (p.deal v (p.deal v' d).data).data = (p.deal v' (p.deal v d).data).data := by
        rw [first]
      have entry : (p.deal v (p.deal v' d).data).entry = (p.deal v d).entry := by
        rw [first]
      have entry' : (p.deal v' (p.deal v d).data).entry = (p.deal v' d).entry := by
        rw [second]
      have issues : (p.deal v (p.deal v' d).data).issues = (p.deal v d).issues := by
        rw [first]
      have issues' : (p.deal v' (p.deal v d).data).issues = (p.deal v' d).issues := by
        rw [second]
      simp only [sweep, data, entry, entry', issues, issues', swapAt, true_and]
      exact List.perm_append_comm_assoc _ _ _
  | case2 i v rest ih =>
      rcases ih _ (NeighboursApart.tail h (sameShape_deal p v d)) with ⟨data, entries, issues⟩
      simp only [sweep, swapAt, data, entries, true_and]
      exact issues.append_left _
  | case3 i vs none_at_0 none_later =>
      -- There is nothing to exchange, neither before the sweep nor after it.
      refine ⟨rfl, ?_, List.Perm.refl _⟩
      rcases vs with _ | ⟨v, _ | ⟨v', rest⟩⟩
      · cases i <;> rfl
      · cases i with
        | zero =>
            rfl
        | succ i =>
            exact (none_later i v [] rfl rfl).elim
      · cases i with
        | zero =>
            exact (none_at_0 v v' rest rfl rfl).elim
        | succ i =>
            exact (none_later i v (v' :: rest) rfl rfl).elim

/-! ## The pass -/

/-- A pass gives two neighbours that have changed places what it gives them in the old places. -/
theorem run_swapEntries (p : Pass) (h : t.EntriesApart i) :
    (p.run (t.swapEntries i)).tree = (p.run t).tree.swapEntries i ∧
      (p.run (t.swapEntries i)).issues.Perm (p.run t).issues ∧
        (p.run (t.swapEntries i)).acted = (p.run t).acted := by
  cases entries : t.metaEntries? with
  | none =>
      have kept : (p.run t).tree = t := by
        rcases run_cases p t with kept | ⟨es, d, found, -⟩
        · exact kept
        · simp [entries] at found
      rw [kept, swapEntries_of_none entries]
      exact ⟨kept, List.Perm.refl _, rfl⟩
  | some es =>
      rcases metaEntries?_eq_some.1 entries with ⟨ms, vs, rfl, listed, rfl⟩
      cases data : (obj ms).dataBlock? with
      | none =>
          have data' : ((obj ms).swapEntries i).dataBlock? = none := by
            rw [← data, dataBlock?, dataBlock?, present?, present?, member?_data_swapEntries]
          have entries' : ((obj ms).swapEntries i).metaEntries? = some (entriesOf (swapAt i vs)) :=
            metaEntries?_eq_some.2 ⟨_, _, swapEntries_obj listed i, Members.get?_insert_self, rfl⟩
          have kept := run_without_data p data data rfl
          have kept' := run_without_data p data data' (by rw [entries, entries']; rfl)
          rw [kept', kept]
          exact ⟨rfl, List.Perm.refl _, rfl⟩
      | some d =>
          rcases sweep_swapAt p i vs d (h vs d listed data) with ⟨same, swapped, issues⟩
          rw [swapEntries_obj listed, run_insert_eq_sweep listed data, run_eq_sweep listed data, same,
            swapped, swapEntries_obj Members.get?_insert_self, Members.insert_insert]
          exact ⟨rfl, issues, rfl⟩

/-- Entries address after a pass what they did before it. -/
theorem entriesApart_run (p : Pass) (h : t.EntriesApart i) : (p.run t).tree.EntriesApart i := by
  rcases run_cases p t with kept | ⟨es, d, entries, data⟩
  · rwa [kept]
  · rcases metaEntries?_eq_some.1 entries with ⟨ms, vs, rfl, listed, rfl⟩
    have shape := (altered_convertEntries p (entriesOf vs) d).sameShape
    rcases exists_run (p := p) listed data with ⟨ms', done, listed', data'⟩
    rw [done]
    intro us d' found block v v' at_i at_i' l l' addressed addressed'
    obtain rfl : vs.mapIdx (relabelled (p.convertEntries (entriesOf vs) d).relabels) = us := by
      simpa [member?, listed'] using found
    obtain rfl : (p.convertEntries (entriesOf vs) d).data = d' := by
      simpa [data'] using block
    rw [List.getElem?_mapIdx, Option.map_eq_some_iff] at at_i at_i'
    rcases at_i with ⟨u, before, rfl⟩
    rcases at_i' with ⟨u', before', rfl⟩
    simp only [MetaEntry.Addresses, names_relabelled, ← shape.locationsOf_eq] at addressed addressed'
    exact h vs d listed data u u' before before' l l' addressed addressed'

end

end Pass

/-! ## Normalizing -/

namespace Record

variable {r r' : Record}

/-- Two records that differ in the order of two neighbours and in the order of their messages. -/
structure SwappedAt (i : Nat) (r r' : Record) : Prop where
  tree : r'.tree = r.tree.swapEntries i
  messages : r'.messages.Perm r.messages
  status : r'.status = r.status

section

variable [JsonLibrary] [ZoneLibrary]

theorem SwappedAt.run (h : SwappedAt i r r') (apart : r.tree.EntriesApart i) (p : Pass) :
    SwappedAt i (r.run p) (r'.run p) := by
  rcases p.run_swapEntries apart with ⟨tree, issues, acted⟩
  rw [← h.tree] at tree issues acted
  have none_iff : (p.run r'.tree).issues = [] ↔ (p.run r.tree).issues = [] := by
    rw [← List.length_eq_zero_iff, issues.length_eq, List.length_eq_zero_iff]
  refine ⟨tree, h.messages.append (issues.map Issue.message), ?_⟩
  simp only [Record.run, absorb, Outcome.status, h.status, acted, ne_eq, none_iff]

theorem SwappedAt.normalize (h : SwappedAt i r r') (apart : r.tree.EntriesApart i)
    (passes : Passes) : SwappedAt i (r.normalize passes) (r'.normalize passes) := by
  rcases passes with ⟨_ | _, _ | _⟩
  · exact h
  · exact h.run apart .dateTime
  · exact h.run apart .unit
  · exact (h.run apart .unit).run (Pass.unit.entriesApart_run apart) .dateTime

/-- Neighbours among the entries that address nothing in common may change places: the record comes out
with the two in their new places and with the same data and outcome, and the same has been said about
it, if not in the same order. -/
theorem normalize_swapEntries (r : Record) (passes : Passes) (i : Nat)
    (apart : r.tree.EntriesApart i) :
    ((r.withTree (r.tree.swapEntries i)).normalize passes).tree =
        (r.normalize passes).tree.swapEntries i ∧
      ((r.withTree (r.tree.swapEntries i)).normalize passes).tree.member? "data" =
        (r.normalize passes).tree.member? "data" ∧
      ((r.withTree (r.tree.swapEntries i)).normalize passes).messages.Perm
        (r.normalize passes).messages ∧
      ((r.withTree (r.tree.swapEntries i)).normalize passes).status =
        (r.normalize passes).status := by
  have start : SwappedAt i r (r.withTree (r.tree.swapEntries i)) :=
    ⟨rfl, List.Perm.refl _, rfl⟩
  have done := start.normalize apart passes
  refine ⟨done.tree, ?_, done.messages, done.status⟩
  rw [done.tree, member?_data_swapEntries]

end

/-- An entry for dates, days before months. -/
def dayFirstEntry (names : List String) : Json :=
  .obj [("kind", .str "dateTime"), ("propertyNames", .arr (names.map Json.str)),
    ("persistableReference", .obj [("type", .str "DAT"), ("format", .str "dd.MM.yyyy")])]

/-- A well with two entries, one of them with a property too many, the other one with no date. -/
def wellDates : Json :=
  .obj [("data", .obj [("Spud", .str "12.08.2020"), ("Completed", .str "soon")]),
    ("meta", .arr [dayFirstEntry ["Spud", "Rig"], dayFirstEntry ["Completed"]])]

theorem entriesApart_wellDates : wellDates.EntriesApart 0 := by
  intro vs d listed block v v' at_0 at_1 l l' addressed addressed'
  cases listed
  cases block
  cases at_0
  cases at_1
  have names : (MetaEntry.ofJson 0 (dayFirstEntry ["Spud", "Rig"])).names = .ok ["Spud", "Rig"] :=
    rfl
  have names' : (MetaEntry.ofJson 1 (dayFirstEntry ["Completed"])).names = .ok ["Completed"] :=
    rfl
  rcases (MetaEntry.addresses_iff names).1 addressed with ⟨name, mem, at_l⟩
  rcases (MetaEntry.addresses_iff names').1 addressed' with ⟨name', mem', at_l'⟩
  obtain rfl : name' = "Completed" := by simpa using mem'
  obtain rfl : l' = [.key "Completed"] := List.mem_singleton.1 at_l'
  obtain rfl | rfl : name = "Spud" ∨ name = "Rig" := by simpa using mem
  · obtain rfl : l = [.key "Spud"] := List.mem_singleton.1 at_l
    decide
  · exact absurd at_l List.not_mem_nil

open BuiltIn in
theorem normalize_swapEntries_wellDates :
    wellDates.EntriesApart 0 ∧
      (((fresh wellDates).withTree (wellDates.swapEntries 0)).normalize
        ⟨true, true⟩).messages.Perm
          ["DateTime conversion: property Rig missing",
            "DateTime conversion: value 'soon' of property Completed does not match " ++
              "reference format 'dd.MM.yyyy'"] ∧
      ((((fresh wellDates).withTree (wellDates.swapEntries 0)).normalize
        ⟨true, true⟩).tree.get? [.key "data", .key "Spud"]).bind Json.text? = some "2020-08-12" := by
  rcases normalize_swapEntries (fresh wellDates) ⟨true, true⟩ 0 entriesApart_wellDates with
    ⟨-, data, messages, -⟩
  have tree : (fresh wellDates).tree = wellDates := rfl
  rw [tree] at data messages
  have said : ((fresh wellDates).normalize ⟨true, true⟩).messages =
      ["DateTime conversion: property Rig missing",
        "DateTime conversion: value 'soon' of property Completed does not match " ++
          "reference format 'dd.MM.yyyy'"] := by
    decide +kernel
  have converted : (((fresh wellDates).normalize ⟨true, true⟩).tree.get?
      [.key "data", .key "Spud"]).bind Json.text? = some "2020-08-12" := by
    decide +kernel
  refine ⟨entriesApart_wellDates, ?_, ?_⟩
  · rwa [← said]
  · rwa [get?_cons, child?, data]

end Record
end RefFrame
