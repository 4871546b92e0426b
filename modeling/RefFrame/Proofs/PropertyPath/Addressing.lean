import RefFrame.Proofs.PropertyPath.Matches

/-!
# What a path addresses, step by step

`PropertyPath.Addresses` says where a path leads with nothing said of how its matches are found: each
segment goes into a member of an object and along its indices, and between two segments an object is
entered as it is, an array by one of its elements, and any other value not at all (`Segment.Leads`).

* `mem_resolve_iff`: the matches of a path are the places that it addresses, each with its value.
* `Json.matchesOf_addressed`: for the text of a path, also in which order they come.
-/

namespace RefFrame

open Json Location

/-! ## The steps of a path -/

/-- Indices lead from a value to another one, each into an element of an array. -/
inductive Json.Along : List Nat → Json → Json → Prop
  | nil {v : Json} :
      Along [] v v
  | cons {i : Nat} {is : List Nat} {es : List Json} {e v : Json} :
      es[i]? = some e → Along is e v → Along (i :: is) (.arr es) v

/-- Where a segment may start behind the value that the last one led to: at an object itself, or one step
into an array. -/
inductive Json.Enters : Json → Location → Json → Prop
  | object {ms : Members} :
      Enters (.obj ms) [] (.obj ms)
  | element {es : List Json} {i : Nat} {e : Json} :
      es[i]? = some e → Enters (.arr es) [.index i] e

/-- A segment, with others to come after it, leads from a tree along a location to a value. -/
inductive Segment.Leads : Segment → List Segment → Json → Location → Json → Prop
  | last {s : Segment} {ms : Members} {c v : Json} :
      ms.get? s.key = some c → Along s.indices c v →
        Leads s [] (.obj ms) (.key s.key :: s.indices.map .index) v
  | next {s s' : Segment} {more : List Segment} {ms : Members} {c v e w : Json} {start l : Location} :
      ms.get? s.key = some c → Along s.indices c v → Enters v start e → Leads s' more e l w →
        Leads s (s' :: more) (.obj ms) (.key s.key :: s.indices.map .index ++ start ++ l) w

namespace PropertyPath

/-- The path leads from a tree along a location to a value. -/
def Addresses (p : PropertyPath) (t : Json) (l : Location) (v : Json) : Prop :=
  p.first.Leads p.rest t l v

variable {t v w : Json} {s : Segment} {more : List Segment} {p : PropertyPath} {m : Match}
  {is : List Nat}

theorem get?_indices : v.get? (is.map .index) = some w ↔ Along is v w := by
  induction is generalizing v with
  | nil =>
      constructor
      · rintro ⟨⟩
        exact .nil
      · rintro ⟨⟩
        rfl
  | cons i is ih =>
      constructor
      · intro h
        rcases Option.bind_eq_some_iff.1 h with ⟨c, element, rest⟩
        -- Only an array has an element at an index.
        cases v with
        | arr es =>
            exact .cons element (ih.1 rest)
        | _ =>
            cases element
      · rintro ⟨⟩
        rename_i es c element rest
        exact Option.bind_eq_some_iff.2 ⟨c, element, ih.2 rest⟩

theorem get?_steps :
    t.get? s.steps = some v ↔
      ∃ (ms : Members) (c : Json), t = .obj ms ∧ ms.get? s.key = some c ∧ Along s.indices c v := by
  constructor
  · intro h
    rcases Option.bind_eq_some_iff.1 h with ⟨c, member, rest⟩
    cases t with
    | obj ms =>
        exact ⟨ms, c, rfl, member, get?_indices.1 rest⟩
    | _ =>
        cases member
  · rintro ⟨ms, c, rfl, member, rest⟩
    exact Option.bind_eq_some_iff.2 ⟨c, member, get?_indices.2 rest⟩

theorem mem_entries_iff : m ∈ entries v ↔ Enters v m.location m.value := by
  rcases m with ⟨start, e⟩
  constructor
  · intro h
    cases v with
    | obj ms =>
        have only : start = [] ∧ e = .obj ms := by simpa [entries] using h
        rcases only with ⟨rfl, rfl⟩
        exact .object
    | arr es =>
        rcases List.mem_map.1 h with ⟨⟨x, i⟩, listed, same⟩
        have element : es[i]? = some x := List.mem_zipIdx_iff_getElem?.1 listed
        cases same
        exact .element element
    | _ =>
        cases h
  · intro h
    cases h with
    | object =>
        exact List.mem_singleton_self _
    | @element es i e element =>
        exact List.mem_map.2 ⟨(e, i), List.mem_zipIdx_iff_getElem?.2 element, rfl⟩

theorem mem_resolveFrom_iff : m ∈ resolveFrom s more t ↔ s.Leads more t m.location m.value := by
  -- The induction is on the segments to come; each of them starts in another tree.
  induction more generalizing s t m with
  | nil =>
      constructor
      · intro h
        cases there : t.get? s.steps with
        | none =>
            simp [resolveFrom_of_none there] at h
        | some v =>
            have only : m = ⟨s.steps, v⟩ := by simpa [resolveFrom_last there] using h
            subst only
            rcases get?_steps.1 there with ⟨ms, c, rfl, member, along⟩
            exact .last member along
      · intro h
        rcases m with ⟨l, w⟩
        cases h with
        | last member along =>
            have there := get?_steps.2 ⟨_, _, rfl, member, along⟩
            rw [resolveFrom_last there]
            exact List.mem_singleton_self _
  | cons s' more' ih =>
      constructor
      · intro h
        cases there : t.get? s.steps with
        | none =>
            simp [resolveFrom_of_none there] at h
        | some v =>
            rw [resolveFrom_next there] at h
            rcases List.mem_flatMap.1 h with ⟨e, entered, below⟩
            rcases List.mem_map.1 below with ⟨m', found, rfl⟩
            rcases get?_steps.1 there with ⟨ms, c, rfl, member, along⟩
            exact .next member along (mem_entries_iff.1 entered) (ih.1 found)
      · intro h
        rcases m with ⟨l, w⟩
        cases h with
        | @next _ _ _ ms c v e _ start l' member along enters leads =>
            have there := get?_steps.2 ⟨_, _, rfl, member, along⟩
            have entered : ⟨start, e⟩ ∈ entries v := mem_entries_iff.2 enters
            have found : ⟨l', w⟩ ∈ resolveFrom s' more' e := ih.2 leads
            rw [resolveFrom_next there]
            exact List.mem_flatMap.2 ⟨⟨start, e⟩, entered, List.mem_map.2 ⟨⟨l', w⟩, found, rfl⟩⟩

/-- The matches are the places that are addressed, each with the value there. -/
theorem mem_resolve_iff : m ∈ p.resolve t ↔ p.Addresses t m.location m.value :=
  mem_resolveFrom_iff

end PropertyPath

/-! ## The matches of a text -/

namespace Json

/-- The text of a path matches exactly what the path addresses, and a text that is no path matches
nothing. Each place comes once, in the order of the document, with the value that is read there. -/
theorem matchesOf_addressed (t : Json) (name : String) :
    (∀ p, PropertyPath.parse name = .ok p → ∀ m, m ∈ t.matchesOf name ↔
        p.Addresses t m.location m.value) ∧
      (∀ fault, PropertyPath.parse name = .error fault → t.matchesOf name = []) ∧
      (t.locationsOf name).Pairwise Precedes ∧ (t.locationsOf name).Nodup ∧
      ∀ m ∈ t.matchesOf name, t.get? m.location = some m.value := by
  refine ⟨?parsed, ?malformed, pairwise_precedes_locationsOf t name, ?once, ?value⟩
  case parsed =>
    intro p parsed m
    simpa [matchesOf, parsed] using PropertyPath.mem_resolve_iff
  case malformed =>
    intro fault malformed
    simp [matchesOf, malformed]
  case once =>
    exact (pairwise_locationsOf t name).imp Apart.ne
  case value =>
    intro m found
    exact get?_of_mem_matchesOf found

/-- Rows of cells, among them a row without cells and a value that is no row. -/
def rows : Json :=
  .obj [("rows", .arr [.obj [("cells", .arr [.obj [("v", .num (.int 1))], .obj [("v", .null)]])],
    .obj [("cells", .arr [])], .num (.int 7), .arr [.obj [("cells", .arr [])]],
    .obj [("cells", .arr [.obj [("w", .num (.int 0))], .obj [("v", .num (.int 3))]])]])]

/-- The last cell comes after the first one, the array in the place of a row is not gone into, and two
dots in a row make no path. -/
theorem matchesOf_addressed_rows :
    PropertyPath.parse "rows.cells.v" = .ok ⟨⟨"rows", []⟩, [⟨"cells", []⟩, ⟨"v", []⟩]⟩ ∧
      ⟨[.key "rows", .index 4, .key "cells", .index 1, .key "v"], .num (.int 3)⟩ ∈
        rows.matchesOf "rows.cells.v" ∧
      rows.locationsOf "rows.cells.v" =
        [[.key "rows", .index 0, .key "cells", .index 0, .key "v"],
          [.key "rows", .index 0, .key "cells", .index 1, .key "v"],
          [.key "rows", .index 4, .key "cells", .index 1, .key "v"]] ∧
      rows.matchesOf "rows..v" = [] := by
  have parsed : PropertyPath.parse "rows.cells.v" =
      .ok ⟨⟨"rows", []⟩, [⟨"cells", []⟩, ⟨"v", []⟩]⟩ := rfl
  have malformed : PropertyPath.parse "rows..v" = .error (.emptySegment "rows..v") := rfl
  refine ⟨parsed, ?_, rfl, (matchesOf_addressed rows "rows..v").2.1 _ malformed⟩
  refine ((matchesOf_addressed rows "rows.cells.v").1 _ parsed _).2 ?_
  -- From the root into the fifth row, and from there into its second cell.
  exact .next rfl .nil (.element rfl) (.next rfl .nil (.element rfl) (.last rfl .nil))

end Json
end RefFrame
