import Mathlib.Logic.Function.Iterate
import RefFrame.Json.Exact
import RefFrame.Proofs.Record.Confinement

/-!
# How often a quantity is converted

A unit entry converts a quantity once for each of its names that addresses the place. So a quantity
that two names of an entry lead to, by the same path or by overlapping ones, is converted twice,
while its entry then says that it is given in the base unit.

`Pass.get?_run_of_describes` says which number comes out, and when it is the one that the new
reference stands for.
-/

namespace RefFrame

open Json Location Conversion

variable {u : UnitFrame} {p : Progress} {name : String} {names : List String} {l : Location}
  {v : Json} {x : Float}

/-! ## One turn -/

theorem Conversion.judge_ofUnit_of_none (notNull : v.isNull = false) (h : v.quantity? = none) :
    (ofUnit u).judge name v = .refuse (.illegalValue name) := by
  simp [ofUnit, notNull, UnitFrame.convert?, h]

theorem Json.isNull_of_quantity? (h : v.quantity? = some x) : v.isNull = false := by
  cases v with
  | null =>
      simp [quantity?] at h
  | _ =>
      rfl

theorem Conversion.turn_ofUnit (h : v.quantity? = some x)
    (accepted : ∀ i, (ofUnit u).judge name v ≠ .refuse i) :
    (ofUnit u).turn name v = .num (.float (u.toBase.apply x)) := by
  have number : v.isNull = false := isNull_of_quantity? h
  by_cases finite : (u.toBase.apply x).isFinite
  · simp [turn, ofUnit, number, UnitFrame.convert?, h, ofFinite?, finite]
  · have refused : (ofUnit u).judge name v = .refuse (.illegalValue name) := by
      simp [ofUnit, number, UnitFrame.convert?, h, ofFinite?, finite]
    exact absurd refused (accepted _)

theorem Json.isLeaf_of_quantity? (h : v.quantity? = some x) : v.IsLeaf := by
  cases v with
  | arr es =>
      simp [quantity?] at h
  | obj ms =>
      simp [quantity?] at h
  | _ =>
      rfl

theorem Json.quantity?_float (x : Float) : (Json.num (.float x)).quantity? = some x := rfl

/-- What is no quantity stays none where the pass has nothing to rewrite. It may change further down,
but an object or an array it still is. -/
theorem Json.Altered.exists_not_quantity {q : Pass} {A : Location → Prop} {t t' : Json}
    (h : Altered q A t t') (there : t.get? l = some v) (notNull : v.isNull = false)
    (noQuantity : v.quantity? = none) (free : ¬ A l) :
    ∃ v', t'.get? l = some v' ∧ v'.isNull = false ∧ v'.quantity? = none := by
  by_cases leaf : v.IsLeaf
  · -- A leaf stays as it is.
    exact ⟨v, h.get?_of_not there leaf free, notNull, noQuantity⟩
  · rcases h.sameShape.exists_get? there with ⟨v', there', same⟩
    -- A container stays one, and no container is `null` or a quantity.
    have leaf' : ¬ v'.IsLeaf := fun e => leaf (same.isLeaf_iff.2 e)
    refine ⟨v', there', ?_, ?_⟩
    · cases v' with
      | null =>
          exact absurd rfl leaf'
      | _ =>
          rfl
    · cases quantity : v'.quantity? with
      | none =>
          rfl
      | some x =>
          exact absurd (isLeaf_of_quantity? quantity) leaf'

/-! ## The names of an entry -/

namespace Progress

/-- In an entry without a refusal, whatever a name addresses is a quantity or `null`. -/
theorem not_addressed_of_no_quantity (there : p.data.get? l = some v) (notNull : v.isNull = false)
    (h : v.quantity? = none) (going : (p.convertNames (ofUnit u) names).refused = false) :
    ∀ name ∈ names, l ∉ p.data.locationsOf name := by
  induction names generalizing p v with
  | nil =>
      simp
  | cons name names ih =>
      have step : (p.convertName (ofUnit u) name).refused = false :=
        not_refused_of_convertNames going
      have altered := altered_convertName (sound_ofUnit u) p name
      have first : l ∉ p.data.locationsOf name := by
        intro addressed
        exact (get?_convertName_of_mem step addressed there).2 _ (judge_ofUnit_of_none notNull h)
      rcases altered.exists_not_quantity there notNull h first with ⟨v', there', notNull', h'⟩
      intro name' mem
      rcases List.mem_cons.1 mem with rfl | mem
      · exact first
      · rw [altered.sameShape.locationsOf_eq name']
        exact ih there' notNull' h' going name' mem

end Progress

/-- How many of the names lead to a place. -/
def Json.timesAddressed (d : Json) (names : List String) (l : Location) : Nat :=
  names.countP fun name => l ∈ d.locationsOf name

/-- What a value with the quantity `x` is after some turns that take quantities by `f`. -/
def Json.afterTurns (f : Float → Float) (v : Json) (x : Float) : Nat → Json
  | 0 => v
  | k + 1 => .num (.float (f^[k + 1] x))

theorem Json.afterTurns_succ (f : Float → Float) (v : Json) (x : Float) (k : Nat) :
    afterTurns f v x (k + 1) = afterTurns f (.num (.float (f x))) (f x) k := by
  cases k with
  | zero =>
      rfl
  | succ k =>
      simp only [afterTurns, Function.iterate_succ_apply]

namespace Progress

theorem timesAddressed_cons (d : Json) (name : String) (names : List String) (l : Location) :
    d.timesAddressed (name :: names) l =
      d.timesAddressed names l + if l ∈ d.locationsOf name then 1 else 0 := by
  simp [timesAddressed, List.countP_cons]

theorem timesAddressed_eq {d d' : Json} (h : SameShape d d') (names : List String)
    (l : Location) : d.timesAddressed names l = d'.timesAddressed names l := by
  simp only [timesAddressed, h.locationsOf_eq]

theorem timesAddressed_pos {d : Json} (mem : name ∈ names) (addressed : l ∈ d.locationsOf name) :
    0 < d.timesAddressed names l := by
  rw [timesAddressed, List.countP_pos_iff]
  exact ⟨name, mem, by simpa using addressed⟩

/-- In an entry without a refusal, a quantity has had a turn for each name that leads to it. -/
theorem get?_convertNames_ofUnit (there : p.data.get? l = some v) (quantity : v.quantity? = some x)
    (going : (p.convertNames (ofUnit u) names).refused = false) :
    (p.convertNames (ofUnit u) names).data.get? l =
      some (afterTurns u.toBase.apply v x (p.data.timesAddressed names l)) := by
  induction names generalizing p v x with
  | nil =>
      exact there
  | cons name names ih =>
      have step : (p.convertName (ofUnit u) name).refused = false :=
        not_refused_of_convertNames going
      have altered := altered_convertName (sound_ofUnit u) p name
      have later : p.data.timesAddressed names l =
          (p.convertName (ofUnit u) name).data.timesAddressed names l :=
        timesAddressed_eq altered.sameShape names l
      by_cases addressed : l ∈ p.data.locationsOf name
      · -- The name takes a turn; the other names go on from the converted number.
        rcases get?_convertName_of_mem step addressed there with ⟨written, accepted⟩
        rw [turn_ofUnit quantity accepted] at written
        rw [timesAddressed_cons, if_pos addressed, afterTurns_succ, later]
        exact ih written (quantity?_float _) going
      · -- The name leads elsewhere, and the value waits for the names to come.
        have kept := altered.get?_of_not there (isLeaf_of_quantity? quantity) addressed
        rw [timesAddressed_cons, if_neg addressed, Nat.add_zero, later]
        exact ih kept quantity going

end Progress

/-! ## The pass -/

namespace Pass

variable {t d : Json} {es : List MetaEntry} {e : MetaEntry} {r : Relabel}

/-- The pass relabels an entry for units that addresses a place of the data, and no other entry for
units leads there, above it or below it. -/
structure Describes [JsonLibrary] [ZoneLibrary] (t : Json) (es : List MetaEntry) (d : Json) (e : MetaEntry)
    (names : List String) (u : UnitFrame) (l : Location) : Prop where
  entries : t.metaEntries? = some es
  data : t.dataBlock? = some d
  listed : e ∈ es
  planned : unit.plan e = .ok (names, ofUnit u)
  relabelled : (e.index, (ofUnit u).relabel) ∈ (unit.convertEntries es d).relabels
  addressed : e.Addresses d l
  alone : ∀ e' ∈ es, e'.kind = .unit → e'.index ≠ e.index → ∀ l', e'.Addresses d l' → Apart l l'

/-- What a relabelled entry describes is a quantity that has been converted once for each name of the
entry that leads to it. So the new reference tells the truth about it exactly if converting it that
often comes to the same as converting it once. -/
theorem get?_run_of_describes [JsonLibrary] [ZoneLibrary] (h : Describes t es d e names u l)
    (there : d.get? l = some v) (notNull : v.isNull = false) :
    ∃ x, v.quantity? = some x ∧
      (unit.run t).tree.get? (.key "data" :: l) =
        some (.num (.float (u.toBase.apply^[d.timesAddressed names l] x))) ∧
      ((unit.run t).tree.get? (.key "data" :: l) = some (.num (.float (u.toBase.apply x))) ↔
        u.toBase.apply^[d.timesAddressed names l] x = u.toBase.apply x) := by
  rcases metaEntries?_eq_some.1 h.entries with ⟨ms, vs, rfl, array, rfl⟩
  rcases exists_turn_of_mem_relabels h.relabelled with
    ⟨before, e', after, names', c, split, index, -, turn⟩
  have own : e' = e := by
    have listed' : e' ∈ (entriesOf vs).filter fun e => e.kind = unit.entryKind := by
      rw [split]
      simp
    exact eq_of_index_eq (List.mem_filter.1 listed').1 h.listed index
  subst own
  obtain ⟨rfl, rfl⟩ : names = names' ∧ ofUnit u = c := by
    simpa [h.planned] using turn.planned
  have written : e'.names = .ok names := (plan_eq_ok.1 h.planned).1
  have free : ¬ unit.AddressedByOther vs e' d l := by
    rintro ⟨other, listed', kind, ne, addressed'⟩
    exact (h.alone other listed' kind ne l addressed').ne rfl
  rcases altered_around (d := d) split with ⟨first, last⟩
  generalize before.foldl (convertEntry unit) ⟨d, [], []⟩ = w at turn first last
  -- At the turn of the entry the data have their old shape, and the value is the old one.
  have addressedNow : ∃ name ∈ names, l ∈ w.data.locationsOf name := by
    rw [← MetaEntry.addresses_iff written]
    exact (MetaEntry.addresses_iff_of_sameShape first.sameShape).1 h.addressed
  rcases addressedNow with ⟨name, mem, atName⟩
  -- The value is a quantity, since the entry was not given up.
  have quantity : ∃ x, v.quantity? = some x := by
    cases found : v.quantity? with
    | some x =>
        exact ⟨x, rfl⟩
    | none =>
        rcases first.exists_not_quantity there notNull found free with ⟨v', there', notNull', found'⟩
        exact absurd atName (Progress.not_addressed_of_no_quantity (p := Progress.start w.data)
          there' notNull' found' turn.not_refused name mem)
  rcases quantity with ⟨x, quantity⟩
  have thereNow : w.data.get? l = some v := first.get?_of_not there (isLeaf_of_quantity? quantity) free
  have turned := Progress.get?_convertNames_ofUnit (p := Progress.start w.data) thereNow quantity
    turn.not_refused
  have positive : 0 < w.data.timesAddressed names l := Progress.timesAddressed_pos mem atName
  rcases Nat.exists_eq_succ_of_ne_zero (Nat.pos_iff_ne_zero.1 positive) with ⟨k, count⟩
  have count' : d.timesAddressed names l = k + 1 := by
    rw [Progress.timesAddressed_eq first.sameShape, count]
  have converted : (unit.convertEntry w e').data =
      ((Progress.start w.data).convertNames (ofUnit u) names).data := by
    simp [convertEntry, turn.planned]
  have final : (unit.run (.obj ms)).tree.get? (.key "data" :: l) =
      some (.num (.float (u.toBase.apply^[d.timesAddressed names l] x))) := by
    rw [get?_run h.entries h.data, count']
    refine last.get?_of_not ?_ rfl free
    calc
      (unit.convertEntry w e').data.get? l =
          ((Progress.start w.data).convertNames (ofUnit u) names).data.get? l := by
        rw [converted]
      _ = some (afterTurns u.toBase.apply v x (w.data.timesAddressed names l)) := turned
      _ = some (.num (.float (u.toBase.apply^[k + 1] x))) := by
        rw [count, afterTurns]
  refine ⟨x, quantity, final, ?_⟩
  rw [final]
  simp

theorem describes_repeatedName [JsonLibrary] [ZoneLibrary] :
    ∃ es d e names u, Describes repeatedName es d e names u [.key "MD"] ∧
      d = .obj [("MD", .num (.float 8.0))] ∧ u.toBase = ⟨0.5, -0.0 * 0.5⟩ := by
  refine ⟨_, _, _, ["MD", "MD"], ⟨none, ⟨0.5, -0.0 * 0.5⟩, "m",
    some (.obj [("ancestry", .str "Length")])⟩, ⟨rfl, rfl, List.mem_cons_self, rfl, ?_, ?_, ?_⟩,
    rfl, rfl⟩
  · exact List.mem_singleton.2 rfl
  · exact ⟨["MD", "MD"], rfl, "MD", List.mem_cons_self, List.mem_singleton.2 rfl⟩
  · intro e' listed _ other
    have same := List.mem_singleton.1 listed
    exact absurd (congrArg MetaEntry.index same) other
open BuiltIn in

/-- The depth that is named twice is 8 in a unit of one half, and 2 afterwards. -/
theorem repeatedName_converted_twice :
    ∃ es d e names u, Describes repeatedName es d e names u [.key "MD"] ∧
      d.get? [.key "MD"] = some (.num (.float 8.0)) ∧ u.toBase.apply 8.0 = 4.0 ∧
      (unit.run repeatedName).tree.get? [.key "data", .key "MD"] = some (.num (.float 2.0)) := by
  rcases describes_repeatedName with ⟨es, d, e, names, u, described, rfl, toBase⟩
  refine ⟨es, _, e, names, u, described, rfl, ?_, rfl⟩
  rw [toBase]
  decide

open BuiltIn in
theorem get?_run_repeatedName :
    ∃ es d e names u x, Describes repeatedName es d e names u [.key "MD"] ∧
      (unit.run repeatedName).tree.get? [.key "data", .key "MD"] =
        some (.num (.float (u.toBase.apply^[d.timesAddressed names [.key "MD"]] x))) := by
  rcases describes_repeatedName with ⟨es, d, e, names, u, described, rfl, toBase⟩
  rcases get?_run_of_describes described rfl rfl with ⟨x, -, final, -⟩
  exact ⟨es, _, e, names, u, x, described, final⟩

end Pass
end RefFrame
