import RefFrame.Proofs.Json.Writes
import RefFrame.Proofs.PropertyPath.Matches

/-!
# Rewriting what a path addresses

The matches of a path can be given new values in any order (`Json.matchesOf_replaceEach?`): each write
finds its place, the path leads to the same places afterwards and finds the new values there, and
nothing else is touched. A match lies neither on the way to another one nor below it.
-/

namespace RefFrame
namespace Json

open Location

variable {t t' : Json} {name : String} {order : List Match}

/-- The writes that give matches their new values. -/
def rewrites (value : Match → Json) (ms : List Match) : List (Location × Json) :=
  ms.map fun m => (m.location, value m)

/-- Matches in any order can be written. -/
theorem exists_replaceEach?_rewrites (value : Match → Json)
    (h : order.Perm (t.matchesOf name)) :
    ∃ t', t.replaceEach? (rewrites value order) = some t' ∧
      Written (rewrites value order) t t' := by
  apply exists_replaceEach?
  · intro w mem
    rcases List.mem_map.1 mem with ⟨m, listed, rfl⟩
    simp [get?_of_mem_matchesOf (h.mem_iff.1 listed)]
  · -- That places are apart does not depend on the order in which they come.
    have apart : (t.matchesOf name).Pairwise fun m m' => Apart m.location m'.location :=
      List.pairwise_map.1 (pairwise_locationsOf t name)
    exact List.pairwise_map.2 (h.symm.pairwise apart fun apart => apart.symm)

/-- Whatever new values the matches of a path are given, and in whatever order: all of them can be
written; the path then leads to the same places, with the new values; what lies apart from all
matches is as it was; and the containers that are not part of a new value have their keys and their
lengths. -/
theorem matchesOf_replaceEach? (t : Json) (name : String) (value : Match → Json)
    (h : order.Perm (t.matchesOf name)) :
    ∃ t', t.replaceEach? (rewrites value order) = some t' ∧
      t'.matchesOf name = (t.matchesOf name).map (fun m => ⟨m.location, value m⟩) ∧
      (∀ l, (∀ l' ∈ t.locationsOf name, Apart l' l) → t'.get? l = t.get? l) ∧
      (∀ l, (∀ l' ∈ t.locationsOf name, ¬ l' <+: l) →
        (t'.get? l).map outline = (t.get? l).map outline) ∧
      (t.locationsOf name).Pairwise Apart := by
  rcases exists_replaceEach?_rewrites value h with ⟨t', done, written⟩
  have places : (rewrites value order).map Prod.fst = order.map Match.location := by
    simp [rewrites]
  have listed (l : Location) : l ∈ order.map Match.location ↔ l ∈ t.locationsOf name :=
    (h.map Match.location).mem_iff
  have outside : SameOutside (t.locationsOf name) t t' := by
    intro l others
    apply written.outside l
    intro l' mem
    rw [places, listed] at mem
    exact others l' mem
  have value_at : ∀ m ∈ t.matchesOf name, t'.get? m.location = some (value m) := by
    intro m found
    exact written.value _ (List.mem_map_of_mem (h.mem_iff.2 found))
  have same : t.locationsOf name = t'.locationsOf name := by
    apply locationsOf_eq_of_sameOutside outside
    intro l mem
    rcases List.mem_map.1 mem with ⟨m, found, rfl⟩
    simp [value_at m found]
  refine ⟨t', done, ?_, ?_, ?_, pairwise_locationsOf t name⟩
  · rw [matchesOf_eq t' name, ← same, locationsOf, List.map_map]
    apply List.map_congr_left
    intro m found
    simp [value_at m found]
  · intro l apart
    apply written.elsewhere l
    intro w mem
    exact apart w.1 ((listed w.1).1 (places ▸ List.mem_map_of_mem mem))
  · intro l others
    exact (outside l others).symm

/-- Three markers, one of them without a depth. -/
def markers : Json :=
  .obj [("Markers", .arr [.obj [("MD", .num (.int 1))], .obj [("TVD", .num (.int 5))],
    .obj [("MD", .num (.int 3)), ("name", .str "base")]])]

/-- The two depths, written from the last to the first. -/
theorem matchesOf_replaceEach?_markers :
    (markers.matchesOf "Markers.MD").reverse.Perm (markers.matchesOf "Markers.MD") ∧
      ∃ t', markers.replaceEach? (rewrites (fun m => .arr [m.value])
          (markers.matchesOf "Markers.MD").reverse) = some t' ∧
        t'.matchesOf "Markers.MD" =
          [⟨[.key "Markers", .index 0, .key "MD"], .arr [.num (.int 1)]⟩,
            ⟨[.key "Markers", .index 2, .key "MD"], .arr [.num (.int 3)]⟩] ∧
        t'.get? [.key "Markers", .index 2, .key "name"] = some (.str "base") := by
  have order : (markers.matchesOf "Markers.MD").reverse.Perm (markers.matchesOf "Markers.MD") :=
    List.reverse_perm _
  rcases matchesOf_replaceEach? markers "Markers.MD" (fun m => .arr [m.value]) order with
    ⟨t', done, found, elsewhere, -, -⟩
  refine ⟨order, t', done, found, ?_⟩
  have aside : ∀ l' ∈ markers.locationsOf "Markers.MD",
      Apart l' [.key "Markers", .index 2, .key "name"] := by
    decide
  rw [elsewhere _ aside]
  rfl

end Json
end RefFrame
