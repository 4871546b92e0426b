import RefFrame.Proofs.Record.Alteration

/-!
# The conversion of an entry, step by step

The names of an entry are dealt with one after the other, and the matches of a name one after the
other. What a step does is said once (`carryOut_cases`); all else follows by induction along the
matches and along the names.

The matches of a name are looked up before the first of them is written. They are pairwise apart, so
each still holds the value that was looked up when its turn comes: this is what `Fresh` says, and
what the induction along the matches carries.
-/

namespace RefFrame

open Json Location

namespace Conversion

variable {c : Conversion} {p : Pass} {u : UnitFrame} {f : TimeFrame} {name : String} {v w : Json}

/-- A conversion of a pass replaces values in the way of the pass. -/
def Sound (c : Conversion) (p : Pass) : Prop :=
  ∀ {name v w}, c.judge name v = .replace w → p.Rewrites v w

/-- What a value reads after its turn, when it is not refused. -/
def turn (c : Conversion) (name : String) (v : Json) : Json :=
  match c.judge name v with
  | .replace w => w
  | _ => v

theorem judge_ofUnit_eq_replace :
    (ofUnit u).judge name v = .replace w ↔ u.convert? v = some w := by
  cases v with
  | null =>
      simp [ofUnit, isNull, UnitFrame.convert?, quantity?]
  | _ =>
      simp only [ofUnit, isNull, Bool.false_eq_true, if_false]
      split <;> simp_all

theorem sound_ofUnit (u : UnitFrame) : (ofUnit u).Sound .unit := by
  intro name v w verdict
  have converted : u.convert? v = some w := judge_ofUnit_eq_replace.1 verdict
  cases quantity : v.quantity? with
  | none =>
      simp [UnitFrame.convert?, quantity] at converted
  | some x =>
      simp only [UnitFrame.convert?, quantity, ofFinite?, Option.ite_none_right_eq_some,
        Option.some.injEq] at converted
      rcases converted with ⟨finite, rfl⟩
      exact ⟨by simp [quantity], _, finite, rfl⟩

theorem sound_ofTime [ZoneLibrary] (f : TimeFrame) : (ofTime f).Sound .dateTime := by
  intro name v w verdict
  cases v with
  | str text =>
      cases converted : f.convert text with
      | error fault =>
          simp [ofTime, converted] at verdict
      | ok text' =>
          simp only [ofTime, converted, Verdict.replace.injEq] at verdict
          exact ⟨⟨text, rfl⟩, text', verdict.symm⟩
  | _ =>
      simp [ofTime] at verdict

end Conversion

namespace Progress

variable {c : Conversion} {p p' : Progress} {name : String} {names : List String} {m : Match}
  {ms : List Match} {l : Location} {v : Json}

/-! ## One match -/

/-- What becomes of one match, by its verdict. -/
theorem carryOut_cases (c : Conversion) (name : String) (p : Progress) (m : Match) :
    (∃ v, c.judge name m.value = .replace v ∧ p.carryOut c name m = p.write m.location v) ∨
      (c.judge name m.value = .missing ∧
        p.carryOut c name m = p.report (.missingProperty c.pass name)) ∨
      ∃ i, c.judge name m.value = .refuse i ∧ p.carryOut c name m = p.refuse i := by
  cases verdict : c.judge name m.value with
  | replace v =>
      exact Or.inl ⟨v, rfl, by simp [carryOut, verdict]⟩
  | missing =>
      exact Or.inr (Or.inl ⟨rfl, by simp [carryOut, verdict]⟩)
  | refuse i =>
      exact Or.inr (Or.inr ⟨i, rfl, by simp [carryOut, verdict]⟩)

theorem convertMatch_of_isOver (h : p.isOver c = true) : p.convertMatch c name m = p := by
  simp [convertMatch, h]

theorem convertMatch_of_not_isOver (h : ¬ p.isOver c = true) :
    p.convertMatch c name m = p.carryOut c name m := by
  simp [convertMatch, h]

theorem convertMatch_of_not_refused (h : p.refused = false) :
    p.convertMatch c name m = p.carryOut c name m := by
  simp [convertMatch, isOver, h]

theorem convertMatch_cases (c : Conversion) (name : String) (p : Progress) (m : Match) :
    (∃ v, c.judge name m.value = .replace v ∧ p.convertMatch c name m = p.write m.location v) ∨
      (p.convertMatch c name m).data = p.data := by
  by_cases ended : p.isOver c = true
  · rw [convertMatch_of_isOver ended]
    exact Or.inr rfl
  · rw [convertMatch_of_not_isOver ended]
    -- A missing value and a refusal leave an issue, but no data.
    rcases carryOut_cases c name p m with written | ⟨-, done⟩ | ⟨i, -, done⟩
    · exact Or.inl written
    · rw [done]
      exact Or.inr rfl
    · rw [done]
      exact Or.inr rfl

theorem data_write (there : p.data.get? l = some v) (w : Json) :
    p.data.replace? l w = some (p.write l w).data := by
  rcases exists_replace? there w with ⟨t', written⟩
  simp [write, written]

/-- What has had its turn reads accordingly. -/
theorem get?_carryOut_self (there : p.data.get? m.location = some m.value) :
    (p.carryOut c name m).data.get? m.location = some (c.turn name m.value) := by
  rcases carryOut_cases c name p m with ⟨v, verdict, done⟩ | ⟨verdict, done⟩ | ⟨i, verdict, done⟩
  · rw [done, get?_replace?_self (data_write there v)]
    simp [Conversion.turn, verdict]
  · rw [done]
    simpa [Conversion.turn, verdict, report] using there
  · rw [done]
    simpa [Conversion.turn, verdict, refuse, report] using there

theorem not_refused_of_carryOut (h : (p.carryOut c name m).refused = false) :
    p.refused = false ∧ ∀ i, c.judge name m.value ≠ .refuse i := by
  rcases carryOut_cases c name p m with ⟨v, verdict, done⟩ | ⟨verdict, done⟩ | ⟨i, verdict, done⟩
  · exact ⟨by simpa [done, write] using h, by simp [verdict]⟩
  · exact ⟨by simpa [done, report] using h, by simp [verdict]⟩
  · simp [done, refuse] at h

theorem not_refused_of_convertMatch (h : (p.convertMatch c name m).refused = false) :
    p.refused = false := by
  by_cases ended : p.isOver c = true
  · rwa [convertMatch_of_isOver ended] at h
  · rw [convertMatch_of_not_isOver ended] at h
    exact (not_refused_of_carryOut h).1

theorem altered_convertMatch {q : Pass} (sound : c.Sound q)
    (there : p.data.get? m.location = some m.value) :
    Altered q (· = m.location) p.data (p.convertMatch c name m).data := by
  rcases convertMatch_cases c name p m with ⟨v, verdict, done⟩ | same
  · rw [done]
    exact altered_replace? there (sound verdict) rfl (data_write there v)
  · rw [same]
    exact Altered.refl _ _ _

/-! ## The matches of a name -/

/-- Each of the matches holds the value at its place, and the places are pairwise apart. -/
structure Fresh (t : Json) (ms : List Match) : Prop where
  there : ∀ m ∈ ms, t.get? m.location = some m.value
  apart : ms.Pairwise fun m m' => Apart m.location m'.location

theorem fresh_matchesOf (t : Json) (name : String) : Fresh t (t.matchesOf name) := by
  constructor
  · intro m hm
    exact get?_of_mem_matchesOf hm
  · exact List.pairwise_map.1 (pairwise_locationsOf t name)

theorem get?_convertMatch_of_apart (there : p.data.get? m.location = some m.value)
    (apart : Apart m.location l) : (p.convertMatch c name m).data.get? l = p.data.get? l := by
  rcases convertMatch_cases c name p m with ⟨v, -, done⟩ | same
  · rw [done]
    exact get?_replace?_of_apart (data_write there v) apart
  · rw [same]

theorem Fresh.step (h : Fresh p.data (m :: ms)) (c : Conversion) (name : String) :
    Fresh (p.convertMatch c name m).data ms := by
  rcases List.pairwise_cons.1 h.apart with ⟨apart, rest⟩
  refine ⟨?_, rest⟩
  intro m' hm'
  rw [get?_convertMatch_of_apart (h.there m List.mem_cons_self) (apart m' hm')]
  exact h.there m' (List.mem_cons_of_mem m hm')

theorem not_refused_of_convertMatches
    (h : (ms.foldl (convertMatch c name) p).refused = false) : p.refused = false := by
  induction ms generalizing p with
  | nil =>
      exact h
  | cons m ms ih =>
      exact not_refused_of_convertMatch (ih h)

theorem altered_convertMatches {q : Pass} (sound : c.Sound q) (fresh : Fresh p.data ms) :
    Altered q (· ∈ ms.map Match.location) p.data (ms.foldl (convertMatch c name) p).data := by
  induction ms generalizing p with
  | nil =>
      exact Altered.refl _ _ _
  | cons m ms ih =>
      -- The invariant along the matches is that those to come are fresh.
      have first : Altered q (· = m.location) p.data (p.convertMatch c name m).data :=
        altered_convertMatch sound (fresh.there m (List.mem_cons_self))
      refine Altered.trans (first.mono ?_) ((ih (fresh.step c name)).mono ?_)
      · rintro l rfl
        simp
      · intro l mem
        simpa using Or.inr mem

theorem get?_convertMatches_of_apart (fresh : Fresh p.data ms)
    (apart : ∀ m ∈ ms, Apart m.location l) :
    (ms.foldl (convertMatch c name) p).data.get? l = p.data.get? l := by
  induction ms generalizing p with
  | nil =>
      rfl
  | cons m ms ih =>
      -- The first match leaves the place alone, and so do the others by induction.
      have first : (p.convertMatch c name m).data.get? l = p.data.get? l :=
        get?_convertMatch_of_apart (fresh.there m List.mem_cons_self) (apart m List.mem_cons_self)
      have rest : ∀ m' ∈ ms, Apart m'.location l := by
        intro m' hm'
        exact apart m' (List.mem_cons_of_mem m hm')
      calc
        (ms.foldl (convertMatch c name) (p.convertMatch c name m)).data.get? l =
            (p.convertMatch c name m).data.get? l :=
          ih (fresh.step c name) rest
        _ = p.data.get? l := first

/-- Without a refusal, each match has had its turn. -/
theorem get?_convertMatches_of_mem (fresh : Fresh p.data ms)
    (h : (ms.foldl (convertMatch c name) p).refused = false) (mem : m ∈ ms) :
    (ms.foldl (convertMatch c name) p).data.get? m.location = some (c.turn name m.value) ∧
      ∀ i, c.judge name m.value ≠ .refuse i := by
  induction ms generalizing p with
  | nil =>
      cases mem
  | cons m' ms ih =>
      rcases List.mem_cons.1 mem with rfl | later
      · -- Its own turn writes the place; the turns after it are apart from it.
        have going : (p.convertMatch c name m).refused = false := not_refused_of_convertMatches h
        have before : p.refused = false := not_refused_of_convertMatch going
        have there : p.data.get? m.location = some m.value := fresh.there m List.mem_cons_self
        rw [convertMatch_of_not_refused before] at going
        have accepted := (not_refused_of_carryOut going).2
        refine ⟨?_, accepted⟩
        have kept : (ms.foldl (convertMatch c name) (p.convertMatch c name m)).data.get?
            m.location = (p.convertMatch c name m).data.get? m.location := by
          apply get?_convertMatches_of_apart (fresh.step c name)
          intro m' hm'
          exact ((List.pairwise_cons.1 fresh.apart).1 m' hm').symm
        rw [List.foldl_cons, kept, convertMatch_of_not_refused before]
        exact get?_carryOut_self there
      · exact ih (fresh.step c name) h later

/-! ## One name -/

theorem convertName_cases (c : Conversion) (p : Progress) (name : String) :
    (p.isOver c = true ∧ p.convertName c name = p) ∨
      (p.data.matchesOf name = [] ∧
        p.convertName c name = p.report (.missingProperty c.pass name)) ∨
      (p.data.matchesOf name ≠ [] ∧
        p.convertName c name = (p.data.matchesOf name).foldl (convertMatch c name) p) := by
  by_cases ended : p.isOver c = true
  · exact Or.inl ⟨ended, by simp [convertName, ended]⟩
  · cases found : p.data.matchesOf name with
    | nil =>
        exact Or.inr (Or.inl ⟨rfl, by simp [convertName, ended, found]⟩)
    | cons m ms =>
        exact Or.inr (Or.inr ⟨by simp, by simp [convertName, ended, found]⟩)

theorem not_refused_of_convertName (h : (p.convertName c name).refused = false) :
    p.refused = false := by
  rcases convertName_cases c p name with ⟨-, done⟩ | ⟨-, done⟩ | ⟨-, done⟩
  · rwa [done] at h
  · simpa [done, report] using h
  · rw [done] at h
    exact not_refused_of_convertMatches h

theorem altered_convertName {q : Pass} (sound : c.Sound q) (p : Progress) (name : String) :
    Altered q (· ∈ p.data.locationsOf name) p.data (p.convertName c name).data := by
  rcases convertName_cases c p name with ⟨-, done⟩ | ⟨-, done⟩ | ⟨-, done⟩
  · rw [done]
    exact Altered.refl _ _ _
  · rw [done]
    exact Altered.refl _ _ _
  · rw [done]
    exact altered_convertMatches sound (fresh_matchesOf p.data name)

/-- Without a refusal, what a name addresses has had its turn. -/
theorem get?_convertName_of_mem (h : (p.convertName c name).refused = false)
    (mem : l ∈ p.data.locationsOf name) (there : p.data.get? l = some v) :
    (p.convertName c name).data.get? l = some (c.turn name v) ∧
      ∀ i, c.judge name v ≠ .refuse i := by
  rcases List.mem_map.1 mem with ⟨m, found, rfl⟩
  have value : m.value = v := by simpa [get?_of_mem_matchesOf found] using there
  rcases convertName_cases c p name with ⟨ended, done⟩ | ⟨none_found, -⟩ | ⟨-, done⟩
  · rw [done] at h
    simp [isOver, h] at ended
  · rw [none_found] at found
    cases found
  · rw [done] at h ⊢
    rw [← value]
    exact get?_convertMatches_of_mem (fresh_matchesOf p.data name) h found

/-! ## The names of an entry -/

theorem not_refused_of_convertNames (h : (p.convertNames c names).refused = false) :
    p.refused = false := by
  induction names generalizing p with
  | nil =>
      exact h
  | cons name names ih =>
      exact not_refused_of_convertName (ih h)

/-- The data after an entry: the places that its names address in the data before it may have been
rewritten. -/
theorem altered_convertNames {q : Pass} (sound : c.Sound q) (p : Progress) (names : List String) :
    Altered q (fun l => ∃ name ∈ names, l ∈ p.data.locationsOf name) p.data
      (p.convertNames c names).data := by
  induction names generalizing p with
  | nil =>
      exact Altered.refl _ _ _
  | cons name names ih =>
      have first := altered_convertName sound p name
      refine Altered.trans (first.mono ?_) ((ih (p.convertName c name)).mono ?_)
      · intro l mem
        exact ⟨name, List.mem_cons_self, mem⟩
      · -- The shape has been kept, so later names address what they addressed at first.
        rintro l ⟨name', mem', addressed⟩
        rw [← first.sameShape.locationsOf_eq name'] at addressed
        exact ⟨name', List.mem_cons_of_mem name mem', addressed⟩

/-! ## Issues are only added -/

theorem issues_prefix_convertMatch (c : Conversion) (p : Progress) (name : String) (m : Match) :
    p.issues <+: (p.convertMatch c name m).issues := by
  by_cases ended : p.isOver c = true
  · exact (convertMatch_of_isOver ended).symm ▸ List.prefix_rfl
  · rw [convertMatch_of_not_isOver ended]
    rcases carryOut_cases c name p m with ⟨v, -, done⟩ | ⟨-, done⟩ | ⟨i, -, done⟩
    · exact done.symm ▸ List.prefix_rfl
    · exact done.symm ▸ List.prefix_append _ _
    · exact done.symm ▸ List.prefix_append _ _

theorem issues_prefix_convertMatches (c : Conversion) (p : Progress) (name : String)
    (ms : List Match) : p.issues <+: (ms.foldl (convertMatch c name) p).issues := by
  induction ms generalizing p with
  | nil =>
      exact List.prefix_rfl
  | cons m ms ih =>
      exact (issues_prefix_convertMatch c p name m).trans (ih (p.convertMatch c name m))

theorem issues_prefix_convertName (c : Conversion) (p : Progress) (name : String) :
    p.issues <+: (p.convertName c name).issues := by
  rcases convertName_cases c p name with ⟨-, done⟩ | ⟨-, done⟩ | ⟨-, done⟩
  · exact done.symm ▸ List.prefix_rfl
  · exact done.symm ▸ List.prefix_append _ _
  · exact done.symm ▸ issues_prefix_convertMatches c p name _

theorem issues_prefix_convertNames (c : Conversion) (p : Progress) (names : List String) :
    p.issues <+: (p.convertNames c names).issues := by
  induction names generalizing p with
  | nil =>
      exact List.prefix_rfl
  | cons name names ih =>
      exact (issues_prefix_convertName c p name).trans (ih (p.convertName c name))

end Progress
end RefFrame
