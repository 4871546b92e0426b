import RefFrame.Proofs.Json.Writes
import RefFrame.Proofs.Record.Sweep

/-!
# Entries that have nothing to do with each other

An entry looks at the data only where its names lead. So a change of the data that keeps their shape
and leaves those places alone (`Aside`) makes no difference to it: the entry says the same, and its
writes and the change can be made in either order (`Progress.convertNames_mapData`).

A single write is such a change, and from this it follows that the whole turn of another entry is one
if no place of the one entry lies at, above or below a place of the other (`Pass.deal_deal`).
-/

namespace RefFrame

open Json Location

variable {A : Location → Prop} {f : Json → Json} {d₀ d d' v w t t' : Json} {l l' : Location}

/-! ## Changes aside -/

/-- A change to data of the shape of `d₀` that keeps clear of the places with `A`: it keeps the shape and
the values there, and it comes to the same before and after a leaf is written there. -/
structure Aside (A : Location → Prop) (d₀ : Json) (f : Json → Json) : Prop where
  sameShape : ∀ {d}, SameShape d₀ d → SameShape d (f d)
  get?_eq : ∀ {d l}, SameShape d₀ d → A l → (f d).get? l = d.get? l
  replace?_eq : ∀ {d d' l v w}, SameShape d₀ d → A l → d.get? l = some v → v.IsLeaf → w.IsLeaf →
    d.replace? l w = some d' → (f d).replace? l w = some (f d')

/-- Writing a leaf in the place of a leaf is such a change for all places apart. -/
theorem aside_replace? (there : d₀.get? l = some v) (leaf : v.IsLeaf) (leaf_w : w.IsLeaf)
    (apart : ∀ l', A l' → Apart l l') : Aside A d₀ fun d => (d.replace? l w).getD d := by
  -- In all data of this shape there is a leaf to be replaced.
  have written {d : Json} (shape : SameShape d₀ d) :
      ∃ u d', d.get? l = some u ∧ u.IsLeaf ∧ d.replace? l w = some d' := by
    rcases shape.exists_get? there with ⟨u, found, same⟩
    rcases exists_replace? found w with ⟨d', done⟩
    exact ⟨u, d', found, same.isLeaf_iff.1 leaf, done⟩
  refine ⟨?_, ?_, ?_⟩
  · intro d shape
    rcases written shape with ⟨u, d', found, leaf_u, done⟩
    simpa [done] using sameShape_replace? done found leaf_u leaf_w
  · intro d l' shape mem
    rcases written shape with ⟨u, d', found, leaf_u, done⟩
    simpa [done] using get?_replace?_of_apart done (apart l' mem)
  · intro d d' l' v' w' shape mem found' leaf_v' leaf_w' done'
    rcases written shape with ⟨u, d₁, -, -, done⟩
    rcases replace?_comm done done' (apart l' mem) with ⟨both, first, second⟩
    simp [done, first, second]

namespace Progress

variable {c : Conversion} {q : Pass} {p : Progress} {name : String} {names : List String} {m : Match}
  {ms : List Match}

/-! ## An entry and a change aside -/

/-- The same progress over changed data. -/
def mapData (f : Json → Json) (p : Progress) : Progress :=
  { p with data := f p.data }

theorem convertMatch_mapData (aside : Aside A d₀ f) (shape : SameShape d₀ p.data) (sound : c.Sound q)
    (there : p.data.get? m.location = some m.value) (mem : A m.location) :
    (p.mapData f).convertMatch c name m = (p.convertMatch c name m).mapData f := by
  have ended : (p.mapData f).isOver c = p.isOver c := rfl
  simp only [convertMatch, ended]
  split
  · rfl
  · simp only [carryOut]
    cases verdict : c.judge name m.value with
    | replace w =>
        have rewritten := sound verdict
        have written := data_write there w
        have written' := aside.replace?_eq shape mem there rewritten.isLeaf_left
          rewritten.isLeaf_right written
        simp only [write, mapData] at written written' ⊢
        rw [written', Option.getD_some]
    | missing =>
        rfl
    | refuse i =>
        rfl

theorem convertMatches_mapData (aside : Aside A d₀ f) (shape : SameShape d₀ p.data) (sound : c.Sound q)
    (fresh : Fresh p.data ms) (mem : ∀ m ∈ ms, A m.location) :
    ms.foldl (convertMatch c name) (p.mapData f) = (ms.foldl (convertMatch c name) p).mapData f := by
  induction ms generalizing p with
  | nil =>
      rfl
  | cons m ms ih =>
      have there := fresh.there m List.mem_cons_self
      have step : Altered q (· = m.location) p.data (p.convertMatch c name m).data :=
        altered_convertMatch sound there
      rw [List.foldl_cons, convertMatch_mapData aside shape sound there (mem m List.mem_cons_self)]
      exact ih (shape.trans step.sameShape) (fresh.step c name)
        fun m' later => mem m' (List.mem_cons_of_mem m later)

/-- A name leads to the same matches in the changed data. -/
theorem matchesOf_aside (aside : Aside A d₀ f) (shape : SameShape d₀ d)
    (mem : ∀ l ∈ d.locationsOf name, A l) : (f d).matchesOf name = d.matchesOf name := by
  have places : (f d).locationsOf name = d.locationsOf name :=
    ((aside.sameShape shape).locationsOf_eq name).symm
  rw [matchesOf_eq, matchesOf_eq d, places]
  apply List.map_congr_left
  intro l at_l
  rw [aside.get?_eq shape (mem l at_l)]

theorem convertName_mapData (aside : Aside A d₀ f) (shape : SameShape d₀ p.data) (sound : c.Sound q)
    (mem : ∀ l ∈ p.data.locationsOf name, A l) :
    (p.mapData f).convertName c name = (p.convertName c name).mapData f := by
  have ended : (p.mapData f).isOver c = p.isOver c := rfl
  have found : (p.mapData f).data.matchesOf name = p.data.matchesOf name :=
    matchesOf_aside aside shape mem
  simp only [convertName, ended, found]
  split
  · rfl
  · cases matched : p.data.matchesOf name with
    | nil =>
        rfl
    | cons m ms =>
        have fresh := fresh_matchesOf p.data name
        rw [matched] at fresh
        refine convertMatches_mapData aside shape sound fresh ?_
        intro m' listed
        exact mem m'.location (by rw [locationsOf, matched]; exact List.mem_map_of_mem listed)

/-- An entry over changed data comes to the same as the change over the entry's data, if the change
keeps clear of all that the entry's names address. -/
theorem convertNames_mapData (aside : Aside A d₀ f) (shape : SameShape d₀ p.data) (sound : c.Sound q)
    (mem : ∀ name ∈ names, ∀ l ∈ d₀.locationsOf name, A l) :
    (p.mapData f).convertNames c names = (p.convertNames c names).mapData f := by
  induction names generalizing p with
  | nil =>
      rfl
  | cons name names ih =>
      have own : ∀ l ∈ p.data.locationsOf name, A l := by
        rw [← shape.locationsOf_eq]
        exact mem name List.mem_cons_self
      have step := altered_convertName sound p name
      rw [convertNames, List.foldl_cons, convertName_mapData aside shape sound own]
      exact ih (shape.trans step.sameShape) fun name' later => mem name' (List.mem_cons_of_mem name later)

/-! ## The turn of an entry as a change -/

theorem get?_convertName_of_apart (apart : ∀ l' ∈ p.data.locationsOf name, Apart l' l) :
    (p.convertName c name).data.get? l = p.data.get? l := by
  rcases convertName_cases c p name with ⟨-, done⟩ | ⟨-, done⟩ | ⟨-, done⟩
  · rw [done]
  · rw [done]
    rfl
  · rw [done]
    exact get?_convertMatches_of_apart (fresh_matchesOf p.data name) fun m found =>
      apart m.location (List.mem_map_of_mem found)

theorem get?_convertNames_of_apart (sound : c.Sound q)
    (apart : ∀ name ∈ names, ∀ l' ∈ p.data.locationsOf name, Apart l' l) :
    (p.convertNames c names).data.get? l = p.data.get? l := by
  induction names generalizing p with
  | nil =>
      rfl
  | cons name names ih =>
      have step := altered_convertName sound p name
      have first : (p.convertName c name).data.get? l = p.data.get? l :=
        get?_convertName_of_apart (apart name List.mem_cons_self)
      rw [← first]
      refine ih ?_
      intro name' later l' at_l'
      rw [← step.sameShape.locationsOf_eq] at at_l'
      exact apart name' (List.mem_cons_of_mem name later) l' at_l'

/-- The turn of an entry keeps clear of all places apart from those that its names address. -/
theorem aside_convertNames (sound : c.Sound q)
    (apart : ∀ name ∈ names, ∀ l ∈ d₀.locationsOf name, ∀ l', A l' → Apart l l') :
    Aside A d₀ fun d => ((start d).convertNames c names).data := by
  have sameShape {d : Json} : SameShape d ((start d).convertNames c names).data :=
    (altered_convertNames sound (start d) names).sameShape
  refine ⟨fun _ => sameShape, ?_, ?_⟩
  · intro d l' shape mem
    refine get?_convertNames_of_apart (p := start d) sound ?_
    intro name listed l at_l
    exact apart name listed l (by rwa [shape.locationsOf_eq]) l' mem
  · intro d d' l' v w shape mem found leaf_v leaf_w done
    -- The write is a change aside for the entry, so the entry comes to the same after it.
    rcases shape.symm.exists_get? found with ⟨v₀, found₀, same⟩
    have write_aside : Aside (fun l => ∃ name ∈ names, l ∈ d₀.locationsOf name) d₀
        fun d => (d.replace? l' w).getD d := by
      refine aside_replace? found₀ (same.isLeaf_iff.1 leaf_v) leaf_w ?_
      rintro l ⟨name, listed, at_l⟩
      exact (apart name listed l at_l l' mem).symm
    have changed : (start d).mapData (fun d => (d.replace? l' w).getD d) = start d' := by
      simp [mapData, start, done]
    have after : (start d').convertNames c names =
        ((start d).convertNames c names).mapData fun d => (d.replace? l' w).getD d := by
      rw [← changed]
      exact convertNames_mapData write_aside shape sound fun name listed l at_l => ⟨name, listed, at_l⟩
    rcases sameShape.exists_get? found with ⟨v', there, -⟩
    rcases exists_replace? there w with ⟨d'', written⟩
    rw [written, after, mapData]
    simp [written]

end Progress

namespace Pass

variable {p : Pass} {v' : Json}

/-! ## Two entries -/

section

variable [JsonLibrary] [ZoneLibrary]

theorem sameShape_deal (p : Pass) (v d : Json) : SameShape d (p.deal v d).data := by
  by_cases kind : (MetaEntry.ofJson 0 v).kind = p.entryKind
  · cases planned : p.plan (MetaEntry.ofJson 0 v) with
    | error i =>
        rw [deal_of_error kind planned]
        exact SameShape.refl d
    | ok plan =>
        rw [deal_of_plan kind planned]
        exact (Progress.altered_convertNames (sound_plan planned) (Progress.start d) plan.1).sameShape
  · rw [deal_of_kind_ne kind]
    exact SameShape.refl d

/-- An entry in changed data, when the change keeps clear of all that it addresses. -/
theorem deal_aside (aside : Aside ((MetaEntry.ofJson 0 v).Addresses d) d f) :
    p.deal v (f d) = ⟨(p.deal v d).entry, f (p.deal v d).data, (p.deal v d).issues⟩ := by
  by_cases kind : (MetaEntry.ofJson 0 v).kind = p.entryKind
  · cases planned : p.plan (MetaEntry.ofJson 0 v) with
    | error i =>
        rw [deal_of_error kind planned, deal_of_error kind planned]
    | ok plan =>
        rcases plan with ⟨names, c⟩
        have turn := Progress.convertNames_mapData (p := Progress.start d) aside (SameShape.refl d)
          (sound_plan planned) fun name listed l at_l =>
            (MetaEntry.addresses_iff (plan_eq_ok.1 planned).1).2 ⟨name, listed, at_l⟩
        have changed : (Progress.start d).mapData f = Progress.start (f d) := rfl
        rw [changed] at turn
        rw [deal_of_plan kind planned, deal_of_plan kind planned, turn]
        rfl
  · rw [deal_of_kind_ne kind, deal_of_kind_ne kind]

/-- What an entry makes of the data keeps clear of all places apart from those that it addresses. -/
theorem aside_deal (p : Pass)
    (apart : ∀ l, (MetaEntry.ofJson 0 v).Addresses d₀ l → ∀ l', A l' → Apart l l') :
    Aside A d₀ fun d => (p.deal v d).data := by
  have idle : Aside A d₀ fun d => d :=
    ⟨fun _ => SameShape.refl _, fun _ _ => rfl, fun _ _ _ _ _ done => done⟩
  by_cases kind : (MetaEntry.ofJson 0 v).kind = p.entryKind
  · cases planned : p.plan (MetaEntry.ofJson 0 v) with
    | error i =>
        simpa only [deal_of_error kind planned] using idle
    | ok plan =>
        simp only [deal_of_plan kind planned]
        refine Progress.aside_convertNames (sound_plan planned) ?_
        intro name listed l at_l
        exact apart l ((MetaEntry.addresses_iff (plan_eq_ok.1 planned).1).2 ⟨name, listed, at_l⟩)
  · simpa only [deal_of_kind_ne kind] using idle

/-- Entries that address nothing in common have the same turns in either order. -/
theorem deal_deal (p : Pass)
    (apart : ∀ l l', (MetaEntry.ofJson 0 v).Addresses d l →
      (MetaEntry.ofJson 0 v').Addresses d l' → Apart l l') :
    p.deal v (p.deal v' d).data =
      ⟨(p.deal v d).entry, (p.deal v' (p.deal v d).data).data, (p.deal v d).issues⟩ :=
  deal_aside (aside_deal p fun l' addressed' l addressed => (apart l l' addressed addressed').symm)

end

end Pass
end RefFrame
