import RefFrame.Json.Exact
import RefFrame.Proofs.Record.Run
import RefFrame.Zone.Table

/-!
# Dates that do not look at each other

The pass for dates tries every value, whatever has become of the ones before it. So what it makes of a
leaf is told by that leaf and by the names that lead to its place, one after the other
(`Pass.leafAfter`), and by nothing else that the data hold.

It follows that a bad value never affects another one: in two records with the same entries whose data
have the same places, a leaf that is the same in both before the pass is the same in both after it
(`Record.exists_leaf_run_dateTime`).
-/

namespace RefFrame

open Json Location

namespace Conversion

variable {c : Conversion} {q : Pass} {name : String} {names : List String} {d d' v : Json}
  {l : Location}

theorem isLeaf_turn (sound : c.Sound q) (leaf : v.IsLeaf) : (c.turn name v).IsLeaf := by
  unfold turn
  cases verdict : c.judge name v with
  | replace w =>
      exact (sound verdict).isLeaf_right
  | _ =>
      exact leaf

/-- What a leaf comes to in the turn of an entry: each name that leads to its place has it converted
once more. -/
def leafAfter (c : Conversion) (d : Json) (l : Location) (names : List String) (v : Json) : Json :=
  names.foldl (fun v name => if (d.locationsOf name).contains l then c.turn name v else v) v

theorem leafAfter_cons (c : Conversion) (d : Json) (l : Location) (name : String)
    (names : List String) (v : Json) :
    c.leafAfter d l (name :: names) v =
      c.leafAfter d l names (if l ∈ d.locationsOf name then c.turn name v else v) := by
  simp only [leafAfter, List.foldl_cons, List.contains_iff_mem]

theorem isLeaf_ite_turn (sound : c.Sound q) (leaf : v.IsLeaf) :
    (if l ∈ d.locationsOf name then c.turn name v else v).IsLeaf := by
  split
  · exact isLeaf_turn sound leaf
  · exact leaf

theorem isLeaf_leafAfter (sound : c.Sound q) (leaf : v.IsLeaf) :
    (c.leafAfter d l names v).IsLeaf := by
  induction names generalizing v with
  | nil =>
      exact leaf
  | cons name names ih =>
      rw [leafAfter_cons]
      exact ih (isLeaf_ite_turn sound leaf)

/-- Of the data around the leaf only the places count. -/
theorem leafAfter_eq_of_samePlaces (h : SamePlaces d d') :
    c.leafAfter d l names v = c.leafAfter d' l names v := by
  simp only [leafAfter, h.locationsOf_eq]

end Conversion

namespace Progress

variable {c : Conversion} {q : Pass} {p : Progress} {name : String} {names : List String} {m : Match}
  {ms : List Match} {l : Location} {v : Json}

/-! ## A conversion that does not stop -/

section

variable (tireless : c.stopsAtRefusal = false)

include tireless

theorem convertMatch_of_tireless : p.convertMatch c name m = p.carryOut c name m := by
  simp [convertMatch, isOver, tireless]

/-- Every match has its turn. -/
theorem get?_convertMatches_of_tireless (fresh : Fresh p.data ms) (mem : m ∈ ms) :
    (ms.foldl (convertMatch c name) p).data.get? m.location = some (c.turn name m.value) := by
  induction ms generalizing p with
  | nil =>
      cases mem
  | cons m' ms ih =>
      rcases List.mem_cons.1 mem with rfl | later
      · -- Its own turn writes the place, and the matches to come are apart from it.
        have apart : ∀ m' ∈ ms, Apart m'.location m.location := by
          intro m' hm'
          exact ((List.pairwise_cons.1 fresh.apart).1 m' hm').symm
        rw [List.foldl_cons, get?_convertMatches_of_apart (fresh.step c name) apart,
          convertMatch_of_tireless tireless]
        exact get?_carryOut_self (fresh.there m List.mem_cons_self)
      · exact ih (fresh.step c name) later

/-- A name converts a leaf if it leads there, and leaves it alone otherwise. -/
theorem get?_convertName_leaf (sound : c.Sound q) (there : p.data.get? l = some v)
    (leaf : v.IsLeaf) :
    (p.convertName c name).data.get? l =
      some (if l ∈ p.data.locationsOf name then c.turn name v else v) := by
  by_cases addressed : l ∈ p.data.locationsOf name
  · rw [if_pos addressed]
    rcases List.mem_map.1 addressed with ⟨m, found, rfl⟩
    have value : m.value = v := by simpa [get?_of_mem_matchesOf found] using there
    rcases convertName_cases c p name with ⟨ended, -⟩ | ⟨none_found, -⟩ | ⟨-, done⟩
    · simp [isOver, tireless] at ended
    · rw [none_found] at found
      cases found
    · rw [done, ← value]
      exact get?_convertMatches_of_tireless tireless (fresh_matchesOf p.data name) found
  · rw [if_neg addressed]
    exact (altered_convertName sound p name).get?_of_not there leaf addressed

theorem get?_convertNames_leaf (sound : c.Sound q) (there : p.data.get? l = some v)
    (leaf : v.IsLeaf) :
    (p.convertNames c names).data.get? l = some (c.leafAfter p.data l names v) := by
  induction names generalizing p v with
  | nil =>
      exact there
  | cons name names ih =>
      have first : (p.convertName c name).data.get? l = _ :=
        get?_convertName_leaf tireless sound there leaf
      have leaf' : (if l ∈ p.data.locationsOf name then c.turn name v else v).IsLeaf :=
        Conversion.isLeaf_ite_turn sound leaf
      -- The names to come lead where they led before the first one.
      have places : SamePlaces (p.convertName c name).data p.data :=
        (altered_convertName sound p name).sameShape.samePlaces.symm
      calc
        (p.convertNames c (name :: names)).data.get? l =
            ((p.convertName c name).convertNames c names).data.get? l := rfl
        _ = some (c.leafAfter (p.convertName c name).data l names
              (if l ∈ p.data.locationsOf name then c.turn name v else v)) := ih first leaf'
        _ = some (c.leafAfter p.data l (name :: names) v) := by
          rw [Conversion.leafAfter_eq_of_samePlaces places, Conversion.leafAfter_cons]

end

end Progress

/-! ## The entries -/

namespace Pass

variable {e : MetaEntry} {es : List MetaEntry} {w : Walk} {t d d' v : Json} {l : Location}

section

variable [JsonLibrary] [ZoneLibrary]

/-- What the pass for dates makes of a leaf in the turn of an entry. -/
def leafAfterEntry (d : Json) (l : Location) (v : Json) (e : MetaEntry) : Json :=
  match dateTime.plan e with
  | .ok (names, c) => c.leafAfter d l names v
  | .error _ => v

/-- What the pass for dates makes of a leaf. -/
def leafAfter (d : Json) (l : Location) (es : List MetaEntry) (v : Json) : Json :=
  (es.filter fun e => e.kind = dateTime.entryKind).foldl (leafAfterEntry d l) v

theorem leafAfterEntry_eq_of_samePlaces (h : SamePlaces d d') :
    leafAfterEntry d l = leafAfterEntry d' l := by
  funext v e
  simp only [leafAfterEntry, Conversion.leafAfter_eq_of_samePlaces h]

theorem isLeaf_leafAfterEntry (leaf : v.IsLeaf) : (leafAfterEntry d l v e).IsLeaf := by
  unfold leafAfterEntry
  cases planned : dateTime.plan e with
  | error i =>
      exact leaf
  | ok plan =>
      exact Conversion.isLeaf_leafAfter (sound_plan planned) leaf

theorem isLeaf_leafAfter (leaf : v.IsLeaf) : (leafAfter d l es v).IsLeaf := by
  unfold leafAfter
  induction es.filter fun e => e.kind = dateTime.entryKind generalizing v with
  | nil =>
      exact leaf
  | cons e es ih =>
      exact ih (isLeaf_leafAfterEntry leaf)

theorem tireless_of_plan {names : List String} {c : Conversion}
    (h : dateTime.plan e = .ok (names, c)) : c.stopsAtRefusal = false := by
  rcases plan_eq_ok.1 h with ⟨-, reference, -, found⟩
  rcases conversion_dateTime_eq_ok.1 found with ⟨f, -, rfl⟩
  rfl

theorem get?_convertEntry_leaf (there : w.data.get? l = some v) (leaf : v.IsLeaf) :
    (dateTime.convertEntry w e).data.get? l = some (leafAfterEntry w.data l v e) := by
  cases planned : dateTime.plan e with
  | error i =>
      simpa [convertEntry, leafAfterEntry, planned] using there
  | ok plan =>
      simp only [convertEntry, leafAfterEntry, planned]
      exact Progress.get?_convertNames_leaf (p := Progress.start w.data) (tireless_of_plan planned)
        (sound_plan planned) there leaf

theorem get?_convertRow_leaf (there : w.data.get? l = some v) (leaf : v.IsLeaf) :
    (es.foldl (dateTime.convertEntry) w).data.get? l =
      some (es.foldl (leafAfterEntry w.data l) v) := by
  induction es generalizing w v with
  | nil =>
      exact there
  | cons e es ih =>
      have places : SamePlaces (dateTime.convertEntry w e).data w.data :=
        (altered_convertEntry dateTime w e).sameShape.samePlaces.symm
      rw [List.foldl_cons, List.foldl_cons,
        ih (get?_convertEntry_leaf there leaf) (isLeaf_leafAfterEntry leaf),
        leafAfterEntry_eq_of_samePlaces places]

/-- What becomes of a leaf of the data in the pass for dates. Without entries and without data the pass
leaves it as it is. -/
theorem get?_run_dateTime_leaf (data : t.dataBlock? = some d) (there : d.get? l = some v)
    (leaf : v.IsLeaf) :
    (dateTime.run t).tree.get? (.key "data" :: l) =
      some (leafAfter d l (t.metaEntries?.getD []) v) := by
  cases entries : t.metaEntries? with
  | none =>
      have member : t.member? "data" = some d := (present?_eq_some.1 data).1
      simp [run, entries, data, get?_cons, child?, member, there, leafAfter]
  | some es =>
      rw [get?_run entries data, Option.getD_some]
      exact get?_convertRow_leaf (w := ⟨d, [], []⟩) there leaf

end

end Pass

/-! ## Two records -/

namespace Record

variable {r s : Record} {d d' v : Json} {l : Location}

/-- In two records with the same entries, whose data have the same places, a leaf that both hold at one
of the places becomes the same leaf in both when the pass for dates is run. What else the data hold,
and what becomes of it, makes no difference. -/
theorem exists_leaf_run_dateTime [JsonLibrary] [ZoneLibrary]
    (entries : s.tree.member? "meta" = r.tree.member? "meta")
    (data : r.tree.member? "data" = some d) (data' : s.tree.member? "data" = some d')
    (places : SamePlaces d d') (leaf : v.IsLeaf) (there : d.get? l = some v)
    (there' : d'.get? l = some v) :
    ∃ w : Json, w.IsLeaf ∧ (r.run .dateTime).tree.get? (.key "data" :: l) = some w ∧
      (s.run .dateTime).tree.get? (.key "data" :: l) = some w := by
  have listed : s.tree.metaEntries? = r.tree.metaEntries? := by
    simp only [metaEntries?, entries]
  by_cases absent : d = .null
  · -- Data that are `null` count for none, in both records alike.
    subst absent
    have root : l = [] := eq_nil_of_get?_leaf (t := .null) rfl there
    subst root
    obtain rfl : d' = v := Option.some.inj there'
    obtain rfl : Json.null = d' := Option.some.inj there
    have kept {t : Json} (member : t.member? "data" = some .null) :
        (Pass.dateTime.run t).tree.get? [.key "data"] = some .null := by
      have none_there : t.dataBlock? = none := by simp [dataBlock?, present?, member]
      rw [Pass.run_without_data .dateTime none_there none_there rfl]
      simp [get?_cons, child?, member]
    exact ⟨.null, rfl, kept data, kept data'⟩
  · have absent' : d' ≠ .null := by
      rintro rfl
      have root : l = [] := eq_nil_of_get?_leaf (t := .null) rfl there'
      subst root
      exact absent (Option.some.inj (there.trans there'.symm))
    have block : r.tree.dataBlock? = some d := present?_eq_some.2 ⟨data, absent⟩
    have block' : s.tree.dataBlock? = some d' := present?_eq_some.2 ⟨data', absent'⟩
    have first := Pass.get?_run_dateTime_leaf block there leaf
    have second := Pass.get?_run_dateTime_leaf block' there' leaf
    rw [listed] at second
    -- The places are all that the two outcomes take from the data.
    refine ⟨_, Pass.isLeaf_leafAfter leaf, first, ?_⟩
    rw [Pass.leafAfter, Pass.leafAfterEntry_eq_of_samePlaces places]
    exact second

/-- The data of a well that was spudded on a known day, and completed on a day that may be none. -/
def spudded (completed : String) : Json :=
  .obj [("Spud", .str "12.08.2020"), ("Completed", .str completed)]

/-- The same with the members in the other order. -/
def spuddedBefore (completed : String) : Json :=
  .obj [("Completed", .str completed), ("Spud", .str "12.08.2020")]

/-- Data of a well with an entry that names one of the dates twice. -/
def namedTwice (data : Json) : Json :=
  .obj [("data", data), ("meta", .arr [.obj [("kind", .str "dateTime"),
    ("propertyNames", .arr [.str "Completed", .str "Spud", .str "Spud"]),
    ("persistableReference", .obj [("type", .str "DAT"), ("format", .str "dd.MM.yyyy")])]])]

theorem samePlaces_spudded (completed completed' : String) :
    SamePlaces (spudded completed) (spuddedBefore completed') := by
  intro l
  cases l with
  | nil =>
      rfl
  | cons s rest =>
      cases s with
      | index i =>
          rfl
      | key k =>
          by_cases spud : k = "Spud"
          · subst spud
            rfl
          · by_cases done : k = "Completed"
            · subst done
              exact (IsLeaf.sameShape (v := .str completed) (w := .str completed') rfl
                rfl).samePlaces rest
            · simp [spudded, spuddedBefore, get?_cons, child?, member?, Members.get?,
                List.lookup_cons, beq_false_of_ne spud, beq_false_of_ne done]

open BuiltIn in
/-- The day when the well was spudded, beside a date that can be read and beside one that cannot. -/
theorem exists_leaf_run_dateTime_spudded :
    SamePlaces (spudded "soon") (spuddedBefore "01.02.2021") ∧
      ∃ w : Json, w.text? = some "2020-08-12" ∧
        ((fresh (namedTwice (spudded "soon"))).run .dateTime).tree.get?
          [.key "data", .key "Spud"] = some w ∧
        ((fresh (namedTwice (spuddedBefore "01.02.2021"))).run .dateTime).tree.get?
          [.key "data", .key "Spud"] = some w := by
  have places := samePlaces_spudded "soon" "01.02.2021"
  rcases exists_leaf_run_dateTime (r := fresh (namedTwice (spudded "soon")))
    (s := fresh (namedTwice (spuddedBefore "01.02.2021"))) (l := [.key "Spud"])
    (v := .str "12.08.2020") rfl rfl rfl places rfl rfl rfl with ⟨w, -, first, second⟩
  refine ⟨places, w, ?_, first, second⟩
  have read : (((fresh (namedTwice (spudded "soon"))).run .dateTime).tree.get?
      [.key "data", .key "Spud"]).bind Json.text? = some "2020-08-12" := by
    decide +kernel
  rwa [first] at read

end Record
end RefFrame
