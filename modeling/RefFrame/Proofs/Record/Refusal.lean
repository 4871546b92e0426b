import RefFrame.Proofs.Record.Noninterference
import RefFrame.Proofs.Record.Snapshot

/-!
# What is refused stays

The conversion of dates tries every value, so each of them has its turn. A leaf that it refuses stands
after the turn of the entry as it stood before, however often it is named, and each name that leads to it
has the refusal reported (`Record.refused_of_visits`).
-/

namespace RefFrame

open Json Location

namespace Progress

variable {c : Conversion} {q : Pass} {p : Progress} {name : String} {names : List String} {m : Match}
  {ms : List Match} {l : Location} {v : Json} {i : Issue}

/-! ## A leaf that is refused -/

section

variable (tireless : c.stopsAtRefusal = false)

include tireless

/-- A name that leads to a value that is refused reports it. -/
theorem mem_issues_convertName (addressed : l ∈ p.data.locationsOf name)
    (there : p.data.get? l = some v) (refused : c.judge name v = .refuse i) :
    i ∈ (p.convertName c name).issues := by
  rcases List.mem_map.1 addressed with ⟨m, found, rfl⟩
  have value : m.value = v := by simpa [get?_of_mem_matchesOf found] using there
  rcases convertName_cases c p name with ⟨ended, -⟩ | ⟨none_found, -⟩ | ⟨-, done⟩
  · simp [isOver, tireless] at ended
  · rw [none_found] at found
    cases found
  · rcases List.append_of_mem found with ⟨before, after, split⟩
    have own : i ∈ ((before.foldl (convertMatch c name) p).convertMatch c name m).issues := by
      rw [convertMatch_of_tireless tireless, carryOut, value, refused]
      simp [refuse, report]
    rw [done, split, List.foldl_append, List.foldl_cons]
    exact (issues_prefix_convertMatches c _ name after).subset own

/-- A leaf that every name refuses stays, and each name that leads to it reports it. -/
theorem refused_convertNames (names : List String) (sound : c.Sound q) (leaf : v.IsLeaf)
    (there : p.data.get? l = some v) (refused : ∀ name, ∃ i, c.judge name v = .refuse i) :
    (p.convertNames c names).data.get? l = some v ∧
      ∀ name ∈ names, l ∈ p.data.locationsOf name → ∀ i, c.judge name v = .refuse i →
        i ∈ (p.convertNames c names).issues := by
  induction names generalizing p with
  | nil =>
      exact ⟨there, nofun⟩
  | cons first names ih =>
      have turn : c.turn first v = v := by
        rcases refused first with ⟨i, verdict⟩
        simp [Conversion.turn, verdict]
      have there' : (p.convertName c first).data.get? l = some v := by
        rw [get?_convertName_leaf tireless sound there leaf, turn, ite_self]
      have shape := (altered_convertName sound p first).sameShape
      rcases ih there' with ⟨stays, reported⟩
      refine ⟨stays, ?_⟩
      intro name mem addressed i verdict
      rcases List.mem_cons.1 mem with rfl | later
      · exact (issues_prefix_convertNames c _ names).subset
          (mem_issues_convertName tireless addressed there verdict)
      · rw [shape.locationsOf_eq name] at addressed
        exact reported name later addressed i verdict

end

end Progress

namespace Record

variable {r here : Record} {e : MetaEntry} {names : List String} {c : Conversion} {d v : Json}
  {l : Location}

/-- A leaf that an entry with dates refuses stands after the turn of the entry as before, and each of the
entry's names that leads to it has the refusal added to the messages. -/
theorem refused_of_visits [JsonLibrary] [ZoneLibrary] (visits : Visits .dateTime r e here)
    (planned : Pass.dateTime.plan e = .ok (names, c)) (data : here.tree.dataBlock? = some d)
    (leaf : v.IsLeaf) (there : d.get? l = some v)
    (refused : ∀ name, ∃ i, c.judge name v = .refuse i) :
    (workEntry .dateTime here e).tree.get? (.key "data" :: l) = some v ∧
      ∀ name ∈ names, l ∈ d.locationsOf name → ∀ i, c.judge name v = .refuse i →
        i.message ∈ (workEntry .dateTime here e).messages := by
  rcases exists_walk_of_visits visits with
    ⟨ms, vs, d₀, v₀, w, after, tree, array, data₀, -, -, rfl, present, -⟩
  have block := Pass.Walk.dataBlock?_on (r := r.markProcessed) tree array data₀ present
  obtain rfl : w.data = d := Option.some.inj (block.symm.trans data)
  have present' := (Pass.altered_convertEntry .dateTime w e).ne_null present
  have block' := Pass.Walk.dataBlock?_on (r := r.markProcessed) tree array data₀ present'
  rcases Progress.refused_convertNames (p := .start w.data) (Pass.tireless_of_plan planned) names
    (Pass.sound_plan planned) leaf there refused with ⟨stays, reported⟩
  rw [workEntry_on (r := r.markProcessed) tree array data₀ present]
  constructor
  · have kept : (Pass.dateTime.convertEntry w e).data.get? l = some v := by
      simpa [Pass.convertEntry, planned] using stays
    simp [get?_cons, child?, (present?_eq_some.1 block').1, kept]
  · intro name mem addressed i verdict
    have listed : i ∈ (Pass.dateTime.convertEntry w e).issues := by
      simp only [Pass.convertEntry, planned]
      exact List.mem_append_right _ (reported name mem addressed i verdict)
    simp only [Pass.Walk.on, foldl_addError]
    exact List.mem_append_right _ (List.mem_map_of_mem listed)

end Record
end RefFrame
