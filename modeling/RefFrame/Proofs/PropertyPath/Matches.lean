import Mathlib.Data.List.Basic
import Mathlib.Data.List.Pairwise
import RefFrame.Proofs.Json.Shape
import RefFrame.PropertyPath.Resolve

/-!
# The matches of a path

A match holds the value that is read at its location, the locations of a path come in the order of the
document, which keeps them apart, and they depend on nothing but the places that are there in the tree.
So a path keeps addressing the same places while leaves are being replaced.
-/

namespace RefFrame

open Json Location

namespace PropertyPath

variable {t t' v v' : Json} {s s' : Segment} {more : List Segment} {p : PropertyPath} {m : Match}

/-! ## The steps of resolving -/

theorem resolveFrom_of_none (h : t.get? s.steps = none) : resolveFrom s more t = [] := by
  rw [resolveFrom, h]

theorem resolveFrom_last (h : t.get? s.steps = some v) :
    resolveFrom s [] t = [⟨s.steps, v⟩] := by
  rw [resolveFrom, h]

theorem resolveFrom_next (h : t.get? s.steps = some v) :
    resolveFrom s (s' :: more) t =
      (entries v).flatMap fun e =>
        (resolveFrom s' more e.value).map fun m => m.under (s.steps ++ e.location) := by
  rw [resolveFrom, h]

/-- The steps to where the next segment may start, below a value with some outline. -/
def starts : Outline → List Location
  | .leaf => []
  | .array n => (List.range n).map fun i => [.index i]
  | .object _ => [[]]

/-- Where the next segment may start is decided by the outline alone. -/
theorem entries_eq (v : Json) :
    entries v = (starts v.outline).map fun l => ⟨l, (v.get? l).getD .null⟩ := by
  cases v with
  | arr es =>
      refine List.ext_getElem ?_ ?_
      · simp [entries, starts, outline]
      · intro i h₁ h₂
        have inside : i < es.length := by simpa [entries] using h₁
        simp [entries, starts, outline, get?_cons, child?, element?, inside]
  | _ =>
      simp [entries, starts, outline]

theorem get?_of_mem_entries {e : Match} (h : e ∈ entries v) :
    v.get? e.location = some e.value := by
  cases v with
  | arr es =>
      -- An array offers each of its elements.
      rcases List.mem_map.1 h with ⟨⟨x, i⟩, mem, rfl⟩
      have found : es[i]? = some x := List.mem_zipIdx_iff_getElem?.1 mem
      simp [get?_cons, child?, element?, found]
  | obj ms =>
      have only : e = ⟨[], .obj ms⟩ := by simpa [entries] using h
      simp [only]
  | _ =>
      simp [entries] at h

/-- The starts come in the order of the document. -/
theorem pairwise_starts (o : Outline) : (starts o).Pairwise Precedes := by
  cases o with
  | array n =>
      exact List.pairwise_map.2 (List.pairwise_lt_range.imp precedes_of_index_lt)
  | _ =>
      simp [starts]

theorem pairwise_entries (v : Json) :
    (entries v).Pairwise fun e e' => Precedes e.location e'.location := by
  rw [entries_eq, List.pairwise_map]
  exact pairwise_starts v.outline

/-! ## What is found -/

theorem get?_of_mem_resolveFrom (h : m ∈ resolveFrom s more t) :
    t.get? m.location = some m.value := by
  induction more generalizing s t m with
  | nil =>
      cases there : t.get? s.steps with
      | none =>
          simp [resolveFrom_of_none there] at h
      | some v =>
          have only : m = ⟨s.steps, v⟩ := by simpa [resolveFrom_last there] using h
          simp [only, there]
  | cons s' more' ih =>
      cases there : t.get? s.steps with
      | none =>
          simp [resolveFrom_of_none there] at h
      | some v =>
          rw [resolveFrom_next there] at h
          -- The match lies below a start, which lies below the first segment.
          rcases List.mem_flatMap.1 h with ⟨e, he, hm⟩
          rcases List.mem_map.1 hm with ⟨m', hm', rfl⟩
          have below : e.value.get? m'.location = some m'.value := ih hm'
          simp [Match.under, get?_append, there, get?_of_mem_entries he, below]

theorem get?_of_mem_resolve (h : m ∈ p.resolve t) : t.get? m.location = some m.value :=
  get?_of_mem_resolveFrom h

/-! ## The order of the matches -/

/-- The matches come in the order of the document. -/
theorem pairwise_resolveFrom (s : Segment) (more : List Segment) (t : Json) :
    (resolveFrom s more t).Pairwise fun m m' => Precedes m.location m'.location := by
  induction more generalizing s t with
  | nil =>
      cases there : t.get? s.steps with
      | none =>
          simp [resolveFrom_of_none there]
      | some v =>
          simp [resolveFrom_last there]
  | cons s' more' ih =>
      cases there : t.get? s.steps with
      | none =>
          simp [resolveFrom_of_none there]
      | some v =>
          rw [resolveFrom_next there, List.pairwise_flatMap]
          constructor
          · -- Below one start, the matches keep their order behind the steps that lead there.
            intro e _
            refine List.pairwise_map.2 ((ih s' e.value).imp ?_)
            intro m m' before
            exact before.under (s.steps ++ e.location)
          · -- Below two starts, the matches come in the order of the starts.
            refine (pairwise_entries v).imp ?_
            intro e e' before m hm m' hm'
            rcases List.mem_map.1 hm with ⟨n, -, rfl⟩
            rcases List.mem_map.1 hm' with ⟨n', -, rfl⟩
            exact (before.under s.steps).append n.location n'.location

theorem pairwise_resolve (p : PropertyPath) (t : Json) :
    (p.resolve t).Pairwise fun m m' => Precedes m.location m'.location :=
  pairwise_resolveFrom p.first p.rest t

/-! ## Only the shape counts -/

theorem location_map_under (above : Location) (ms : List Match) :
    (ms.map fun m => m.under above).map Match.location =
      (ms.map Match.location).map fun l => above ++ l := by
  simp [Match.under]

theorem locations_next (h : t.get? s.steps = some v) :
    (resolveFrom s (s' :: more) t).map Match.location =
      (starts v.outline).flatMap fun start =>
        ((resolveFrom s' more ((v.get? start).getD .null)).map Match.location).map
          fun l => (s.steps ++ start) ++ l := by
  rw [resolveFrom_next h, entries_eq v]
  simp only [List.flatMap_map, List.map_flatMap, location_map_under]

theorem exists_get?_of_mem_starts {start : Location} (h : start ∈ starts v.outline) :
    ∃ c, v.get? start = some c := by
  cases v with
  | arr es =>
      rcases List.mem_map.1 h with ⟨i, mem, rfl⟩
      have inside : i < es.length := List.mem_range.1 mem
      exact ⟨es[i], by simp [get?_cons, child?, element?, inside]⟩
  | obj ms =>
      obtain rfl : start = [] := List.mem_singleton.1 h
      exact ⟨_, get?_nil _⟩
  | _ =>
      cases h

/-- A match lies behind all steps of the first segment. -/
theorem steps_prefix_location (h : m ∈ resolveFrom s more t) : s.steps <+: m.location := by
  cases there : t.get? s.steps with
  | none =>
      simp [resolveFrom_of_none there] at h
  | some v =>
      cases more with
      | nil =>
          have only : m = ⟨s.steps, v⟩ := by simpa [resolveFrom_last there] using h
          simp [only]
      | cons s' more' =>
          rw [resolveFrom_next there] at h
          rcases List.mem_flatMap.1 h with ⟨e, -, below⟩
          rcases List.mem_map.1 below with ⟨m', -, rfl⟩
          simp [Match.under]

/-- With a segment still to come, the matches lie below the end of the first one. -/
theorem not_prefix_steps (h : m ∈ resolveFrom s (s' :: more) t) : ¬ m.location <+: s.steps := by
  cases there : t.get? s.steps with
  | none =>
      simp [resolveFrom_of_none there] at h
  | some v =>
      rw [resolveFrom_next there] at h
      rcases List.mem_flatMap.1 h with ⟨e, -, below⟩
      rcases List.mem_map.1 below with ⟨m', found, rfl⟩
      -- The next segment has a key at least.
      have further : 0 < m'.location.length := by
        have steps : s'.steps.length ≤ m'.location.length := (steps_prefix_location found).length_le
        exact Nat.lt_of_lt_of_le (by simp [Segment.steps]) steps
      intro ahead
      have length := ahead.length_le
      simp only [Match.under, List.length_append] at length
      omega

theorem apart_of_mem_starts {o : Outline} {l l' : Location} (h : l ∈ starts o)
    (h' : l' ∈ starts o) (ne : l ≠ l') : Apart l l' :=
  ((pairwise_starts o).imp Precedes.apart).forall h h' ne

/-- Outside of what lies at or below some places, the next segment may start at the same places. -/
def SameStarts (ls : List Location) (t t' : Json) : Prop :=
  ∀ l, (∀ l' ∈ ls, ¬ l' <+: l) →
    (t.get? l).map (fun v => starts v.outline) = (t'.get? l).map fun v => starts v.outline

theorem sameStarts_of_sameOutside {ls : List Location} (h : SameOutside ls t t') :
    SameStarts ls t t' := by
  intro l others
  have outlines := congrArg (Option.map starts) (h l others)
  simpa only [Option.map_map, Function.comp_def] using outlines

/-- Where the next segment may start does not depend on the keys of an object. -/
theorem starts_withoutKeys (o : Outline) : starts o.withoutKeys = starts o := by
  cases o <;> rfl

theorem sameStarts_of_samePlaces (h : SamePlaces t t') (ls : List Location) :
    SameStarts ls t t' := by
  intro l _
  have outlines := congrArg (Option.map starts) (h l)
  simpa only [Option.map_map, Function.comp_def, starts_withoutKeys] using outlines

/-- In a tree that is another one only at and below the matches, the matches are at the same places,
as long as there is something. -/
theorem locations_resolveFrom
    (same : SameStarts ((resolveFrom s more t).map Match.location) t t')
    (there : ∀ l ∈ (resolveFrom s more t).map Match.location, (t'.get? l).isSome) :
    (resolveFrom s more t).map Match.location = (resolveFrom s more t').map Match.location := by
  induction more generalizing s t t' with
  | nil =>
      cases found : t.get? s.steps with
      | none =>
          have absent : t'.get? s.steps = none := by
            have outlines := same s.steps (by simp [resolveFrom_of_none found])
            simpa [found] using outlines.symm
          simp [resolveFrom_of_none found, resolveFrom_of_none absent]
      | some v =>
          have found' : (t'.get? s.steps).isSome := there s.steps (by simp [resolveFrom_last found])
          rcases Option.isSome_iff_exists.1 found' with ⟨v', found'⟩
          simp [resolveFrom_last found, resolveFrom_last found']
  | cons s' more' ih =>
      have outlines := same s.steps fun l mem => by
        rcases List.mem_map.1 mem with ⟨m, found, rfl⟩
        exact not_prefix_steps found
      cases found : t.get? s.steps with
      | none =>
          have absent : t'.get? s.steps = none := by simpa [found] using outlines.symm
          simp [resolveFrom_of_none found, resolveFrom_of_none absent]
      | some v =>
          have found' : ∃ v', t'.get? s.steps = some v' ∧
              starts v'.outline = starts v.outline := by
            simpa [found] using outlines.symm
          rcases found' with ⟨v', found', outlines⟩
          -- Both trees have the same starts, and below each of them the matches are the same.
          rw [locations_next found, locations_next found', outlines]
          refine List.flatMap_congr ?_
          intro start mem
          rcases exists_get?_of_mem_starts mem with ⟨c, at_start⟩
          rcases exists_get?_of_mem_starts (outlines ▸ mem) with ⟨c', at_start'⟩
          have below (l : Location) : t.get? (s.steps ++ start ++ l) = c.get? l := by
            simp [get?_append, found, at_start]
          have below' (l : Location) : t'.get? (s.steps ++ start ++ l) = c'.get? l := by
            simp [get?_append, found', at_start']
          rw [at_start, at_start', Option.getD_some, Option.getD_some]
          refine congrArg _ (ih ?_ ?_)
          · intro l free
            rw [← below, ← below']
            apply same
            intro k at_k ahead
            rw [locations_next found] at at_k
            rcases List.mem_flatMap.1 at_k with ⟨start₁, mem₁, at_k⟩
            rcases List.mem_map.1 at_k with ⟨k₁, at_k₁, rfl⟩
            have further : start₁ ++ k₁ <+: start ++ l := by
              simpa [List.append_assoc, List.prefix_append_right_inj] using ahead
            by_cases own : start₁ = start
            · subst own
              rw [at_start] at at_k₁
              exact free k₁ at_k₁ ((List.prefix_append_right_inj start₁).1 further)
            · -- Matches below another start are apart from this one.
              exact (apart_of_mem_starts mem₁ mem own).append k₁ l (Or.inl further)
          · intro l at_l
            rw [← below']
            apply there
            rw [locations_next found]
            refine List.mem_flatMap.2 ⟨start, mem, List.mem_map.2 ⟨l, ?_, rfl⟩⟩
            rwa [at_start]

/-- Trees with the same places have matches at the same places. -/
theorem locations_resolve (h : SamePlaces t t') :
    (p.resolve t).map Match.location = (p.resolve t').map Match.location := by
  refine locations_resolveFrom (sameStarts_of_samePlaces h _) ?_
  intro l mem
  rcases List.mem_map.1 mem with ⟨m, found, rfl⟩
  have places := h m.location
  rw [get?_of_mem_resolve found] at places
  rcases Option.map_eq_some_iff.1 places.symm with ⟨v', there', -⟩
  simp [there']

end PropertyPath

namespace Json

variable {t t' : Json} {name : String} {m : Match}

/-- The places that the path with a given text addresses. -/
def locationsOf (t : Json) (name : String) : List Location :=
  (t.matchesOf name).map Match.location

theorem get?_of_mem_matchesOf (h : m ∈ t.matchesOf name) :
    t.get? m.location = some m.value := by
  cases parsed : PropertyPath.parse name with
  | error fault =>
      simp [matchesOf, parsed] at h
  | ok p =>
      have found : m ∈ p.resolve t := by simpa [matchesOf, parsed] using h
      exact PropertyPath.get?_of_mem_resolve found

/-- The places that a path addresses come in the order of the document. -/
theorem pairwise_precedes_locationsOf (t : Json) (name : String) :
    (t.locationsOf name).Pairwise Precedes := by
  cases parsed : PropertyPath.parse name with
  | error fault =>
      simp [locationsOf, matchesOf, parsed]
  | ok p =>
      simpa [locationsOf, matchesOf, parsed, List.pairwise_map] using
        PropertyPath.pairwise_resolve p t

/-- The places that a path addresses are pairwise apart, so none of them comes twice. -/
theorem pairwise_locationsOf (t : Json) (name : String) :
    (t.locationsOf name).Pairwise Apart :=
  (pairwise_precedes_locationsOf t name).imp Precedes.apart

/-- A match is told by its place. -/
theorem matchesOf_eq (t : Json) (name : String) :
    t.matchesOf name = (t.locationsOf name).map fun l => ⟨l, (t.get? l).getD .null⟩ := by
  have same : ∀ m ∈ t.matchesOf name, m = ⟨m.location, (t.get? m.location).getD .null⟩ := by
    intro m found
    rw [get?_of_mem_matchesOf found, Option.getD_some]
  rw [locationsOf, List.map_map]
  exact (List.map_id _).symm.trans (List.map_congr_left same)

/-- In a tree that is another one only at and below the matches of a path, the path addresses the
same places, as long as there is something. -/
theorem locationsOf_eq_of_sameOutside (same : SameOutside (t.locationsOf name) t t')
    (there : ∀ l ∈ t.locationsOf name, (t'.get? l).isSome) :
    t.locationsOf name = t'.locationsOf name := by
  cases parsed : PropertyPath.parse name with
  | error fault =>
      simp [locationsOf, matchesOf, parsed]
  | ok p =>
      simp only [locationsOf, matchesOf, parsed] at same there ⊢
      exact PropertyPath.locations_resolveFrom (PropertyPath.sameStarts_of_sameOutside same) there

/-- In trees with the same places a path addresses the same of them. -/
theorem SamePlaces.locationsOf_eq (h : SamePlaces t t') (name : String) :
    t.locationsOf name = t'.locationsOf name := by
  cases parsed : PropertyPath.parse name with
  | error fault =>
      simp [locationsOf, matchesOf, parsed]
  | ok p =>
      simpa [locationsOf, matchesOf, parsed] using PropertyPath.locations_resolve h

theorem SameShape.locationsOf_eq (h : SameShape t t') (name : String) :
    t.locationsOf name = t'.locationsOf name :=
  h.samePlaces.locationsOf_eq name

end Json
end RefFrame
