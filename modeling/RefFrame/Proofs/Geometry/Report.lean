import Mathlib.Algebra.GroupWithZero.Nat
import Mathlib.Data.List.Induction
import Mathlib.Data.String.Basic
import RefFrame.Geometry.Report
import RefFrame.Proofs.Geometry.RoundTrip
import RefFrame.Proofs.Geometry.Setters

/-!
# What a report says

The counts of a report are those of the tags of all nodes, in increasing order of the tags
(`TagCounts.Tally`): so it is with no tag, and it remains so with each tag that is added
(`TagCounts.Tally.add`). Tags have no say in dimensions, boxes and positions, so of a tree whose tags are
all replaced a report says the same, but for the tags (`GeoReport.Retagged`).
-/

namespace RefFrame

namespace TagCounts

variable {counts : TagCounts} {tags : List String} {t t' : String} {n : Nat}

def keys (counts : TagCounts) : List String :=
  counts.map Prod.fst

/-- How often a tag is counted; a tag that is not there is counted zero times. -/
def count (counts : TagCounts) (t : String) : Nat :=
  (counts.lookup t).getD 0

/-- The counts of the tags in a list: each tag that occurs, in increasing order, with the number of its
occurrences. -/
structure Tally (counts : TagCounts) (tags : List String) : Prop where
  increasing : counts.keys.Pairwise (· < ·)
  mem_iff : ∀ t n, (t, n) ∈ counts ↔ 0 < n ∧ tags.count t = n
  total : (counts.map Prod.snd).sum = tags.length

/-! ## Looking up a count -/

theorem mem_keys_of_mem (mem : (t, n) ∈ counts) : t ∈ counts.keys :=
  List.mem_map.2 ⟨(t, n), mem, rfl⟩

theorem count_cons (t t' : String) (n : Nat) (counts : TagCounts) :
    count ((t', n) :: counts) t = if t = t' then n else counts.count t := by
  by_cases same : t = t'
  · simp [count, same]
  · simp [count, List.lookup_cons, same, beq_false_of_ne same]

theorem count_of_not_mem (absent : t ∉ counts.keys) : counts.count t = 0 := by
  have none : counts.lookup t = none := by
    rw [List.lookup_eq_none_iff]
    rintro e mem
    exact bne_iff_ne.2 fun same => absent (List.mem_map.2 ⟨e, mem, same.symm⟩)
  rw [count, none]
  rfl

theorem count_of_mem (increasing : counts.keys.Pairwise (· < ·)) (mem : (t, n) ∈ counts) :
    counts.count t = n := by
  induction counts with
  | nil =>
      cases mem
  | cons e counts ih =>
      rcases e with ⟨t', m⟩
      rcases List.pairwise_cons.1 increasing with ⟨least, rest⟩
      rw [count_cons]
      rcases List.mem_cons.1 mem with same | later
      · cases same
        exact if_pos rfl
      · rw [if_neg (ne_of_gt (least t (mem_keys_of_mem later)))]
        exact ih rest later

theorem Tally.count_eq (h : Tally counts tags) (t : String) : counts.count t = tags.count t := by
  by_cases occurs : 0 < tags.count t
  · exact count_of_mem h.increasing ((h.mem_iff t _).2 ⟨occurs, rfl⟩)
  · rw [Nat.eq_zero_of_not_pos occurs]
    apply count_of_not_mem
    intro mem
    rcases List.mem_map.1 mem with ⟨⟨t', n⟩, entry, rfl⟩
    rcases (h.mem_iff t' n).1 entry with ⟨positive, same⟩
    exact occurs (same ▸ positive)

/-! ## Counting one more tag -/

theorem mem_keys_add (mem : t' ∈ keys (add t counts)) : t' = t ∨ t' ∈ counts.keys := by
  induction counts with
  | nil =>
      exact .inl (List.mem_singleton.1 mem)
  | cons e counts ih =>
      rcases e with ⟨t₀, m⟩
      rw [add] at mem
      split at mem
      · exact .inr mem
      · split at mem
        · exact List.mem_cons.1 mem
        · rcases List.mem_cons.1 mem with rfl | later
          · exact .inr List.mem_cons_self
          · exact (ih later).imp_right (List.mem_cons_of_mem t₀)

theorem increasing_add (increasing : counts.keys.Pairwise (· < ·)) (t : String) :
    (keys (add t counts)).Pairwise (· < ·) := by
  induction counts with
  | nil =>
      exact List.pairwise_singleton _ _
  | cons e counts ih =>
      rcases e with ⟨t₀, m⟩
      rcases List.pairwise_cons.1 increasing with ⟨least, rest⟩
      rw [add]
      split
      · exact increasing
      · rename_i other
        split
        · rename_i below
          refine List.pairwise_cons.2 ⟨?_, increasing⟩
          intro t' mem
          rcases List.mem_cons.1 mem with rfl | later
          · exact below
          · exact lt_trans below (least t' later)
        · rename_i above
          refine List.pairwise_cons.2 ⟨?_, ih rest⟩
          intro t' mem
          rcases mem_keys_add mem with rfl | later
          · exact lt_of_le_of_ne (not_lt.1 above) (Ne.symm other)
          · exact least t' later

/-- Only the count of the tag that is added changes. -/
theorem mem_add (increasing : counts.keys.Pairwise (· < ·)) :
    (t', n) ∈ add t counts ↔ if t' = t then n = counts.count t + 1 else (t', n) ∈ counts := by
  induction counts with
  | nil =>
      simp [add, count]
  | cons e counts ih =>
      rcases e with ⟨t₀, m⟩
      rcases List.pairwise_cons.1 increasing with ⟨least, rest⟩
      rw [add]
      split
      · rename_i same
        subst same
        have new (n : Nat) : (t, n) ∉ counts := fun mem =>
          absurd (least t (mem_keys_of_mem mem)) (lt_irrefl t)
        by_cases here : t' = t <;> simp [here, count_cons, new]
      · rename_i other
        split
        · rename_i below
          -- The tag is smaller than all that are there, so it is none of them.
          have absent : t ∉ keys ((t₀, m) :: counts) := by
            intro mem
            rcases List.mem_cons.1 mem with same | later
            · exact other same
            · exact lt_asymm below (least t later)
          have new (n : Nat) : (t, n) ∉ (t₀, m) :: counts := mt mem_keys_of_mem absent
          rw [count_of_not_mem absent, List.mem_cons]
          by_cases here : t' = t
          · subst here
            simp [new]
          · simp [here]
        · rw [List.mem_cons, ih rest, count_cons, if_neg other]
          by_cases here : t' = t
          · subst here
            simp [other]
          · simp [here]

theorem sum_add (counts : TagCounts) (t : String) :
    ((add t counts).map Prod.snd).sum = (counts.map Prod.snd).sum + 1 := by
  induction counts with
  | nil =>
      rfl
  | cons e counts ih =>
      rcases e with ⟨t₀, m⟩
      rw [add]
      split
      · simp only [List.map_cons, List.sum_cons]
        omega
      · split
        · simp only [List.map_cons, List.sum_cons]
          omega
        · simp only [List.map_cons, List.sum_cons, ih]
          omega

theorem Tally.add (h : Tally counts tags) (t : String) :
    Tally (TagCounts.add t counts) (tags ++ [t]) where
  increasing := increasing_add h.increasing t
  mem_iff t' n := by
    rw [mem_add h.increasing, h.count_eq, List.count_append, List.count_singleton]
    by_cases here : t' = t
    · subst here
      rw [if_pos rfl, if_pos (beq_self_eq_true t')]
      omega
    · rw [if_neg here, if_neg (mt beq_iff_eq.1 (Ne.symm here)), h.mem_iff, Nat.add_zero]
  total := by
    rw [sum_add, h.total, List.length_append]
    rfl

theorem tally_ofList (tags : List String) : Tally (ofList tags) tags := by
  induction tags using List.reverseRecOn with
  | nil =>
      refine ⟨List.Pairwise.nil, ?_, rfl⟩
      intro t n
      rw [List.count_nil]
      exact ⟨nofun, fun ⟨positive, zero⟩ => absurd zero (Nat.ne_of_lt positive)⟩
  | append_singleton tags t ih =>
      -- The last tag is the one that is added last.
      rw [ofList, List.foldl_append]
      exact ih.add t

end TagCounts

theorem Tag.text_inj {t t' : Tag} : t.text = t'.text ↔ t = t' := by
  constructor
  · intro same
    have read := Tag.ofText?_text t
    rw [same, Tag.ofText?_text] at read
    exact (Option.some.inj read).symm
  · rintro rfl
    rfl

namespace GeoObject

variable {α : Type} {g g' : GeoObject α} {v : CrsVariant} {gs : List (GeoObject α)}

section

variable [Min α] [Max α]

theorem refresh_setVariant (v : CrsVariant) (g : GeoObject α) :
    (g.setVariant v).refresh = g.refresh.setVariant v := by
  have boxes (g : GeoObject α) : (g.setVariant v).storeBoxes = g.storeBoxes.setVariant v :=
    storeBoxes_mapHeaders (f := fun h => { h with variant := v }) (fun _ _ => rfl) (fun _ => rfl) g
  have unboxed (g : GeoObject α) : (g.setVariant v).isUnboxed = g.isUnboxed :=
    isUnboxed_mapHeaders (f := fun h => { h with variant := v }) (fun _ => rfl) g
  simp only [refresh, updateBox, storeDimensions_setVariant, unboxed, boxes]
  split <;> rfl

end

/-! ## Positions and tags -/

theorem tupleCounts_eq (gs : List (GeoObject α)) : tupleCounts gs = (gs.map tupleCount).sum := by
  induction gs with
  | nil =>
      rfl
  | cons g gs ih =>
      rw [tupleCounts, ih, List.map_cons, List.sum_cons]

/-- Headers have no say in the number of positions. -/
@[simp] theorem tupleCount_mapHeaders (f : Header α → Header α) (g : GeoObject α) :
    (g.mapHeaders f).tupleCount = g.tupleCount := by
  induction g using treeInduction with
  | simple h c =>
      rfl
  | collection h k gs ih =>
      have below : gs.map (tupleCount ∘ mapHeaders f) = gs.map tupleCount := List.map_congr_left ih
      simp only [mapHeaders, mapHeadersAll_eq, tupleCount, tupleCounts_eq, List.map_map, below]
  | feature h i g ih =>
      exact ih
  | unlocated h i =>
      rfl

/-- The texts of the tags in a tree. -/
def tagTexts (g : GeoObject α) : List String :=
  g.flatten.map fun n => n.tag.text

theorem tagTexts_mapHeaders {f : Header α → Header α} (keeps : ∀ h, (f h).variant = h.variant)
    (g : GeoObject α) : (g.mapHeaders f).tagTexts = g.tagTexts := by
  simp only [tagTexts, flatten_mapHeaders, List.map_map, Function.comp_def, tag, kind_mapHeaders,
    header_mapHeaders, keeps]

theorem tagTexts_withoutCaches (g : GeoObject α) : g.withoutCaches.tagTexts = g.tagTexts :=
  tagTexts_mapHeaders (f := fun h => { h with dimension := defaultDimension, bbox := none })
    (fun _ => rfl) g

/-- Trees that differ in their dimensions and boxes at most have the same positions and tags. -/
theorem tagged_of_withoutCaches (same : g'.withoutCaches = g.withoutCaches) :
    g'.tag = g.tag ∧ g'.tupleCount = g.tupleCount ∧ g'.tagTexts = g.tagTexts := by
  rcases common_of_withoutCaches same with ⟨kind, variant, -⟩
  have tuples := congrArg tupleCount same
  have tags := congrArg tagTexts same
  rw [withoutCaches, withoutCaches, tupleCount_mapHeaders, tupleCount_mapHeaders] at tuples
  rw [tagTexts_withoutCaches, tagTexts_withoutCaches] at tags
  exact ⟨by rw [tag, tag, kind, variant], tuples, tags⟩

theorem tagTexts_setVariant (v : CrsVariant) (g : GeoObject α) :
    (g.setVariant v).tagTexts = g.flatten.map fun n => Tag.text ⟨n.kind, v⟩ := by
  simp only [tagTexts, setVariant, flatten_mapHeaders, List.map_map, Function.comp_def, tag,
    kind_mapHeaders, header_mapHeaders]

theorem count_tagTexts_setVariant (v : CrsVariant) (k : GeoKind) (g : GeoObject α) :
    (g.setVariant v).tagTexts.count (Tag.text ⟨k, v⟩) =
      g.tagTexts.count (Tag.text ⟨k, .geoJson⟩) + g.tagTexts.count (Tag.text ⟨k, .anyCrs⟩) := by
  rw [tagTexts_setVariant, tagTexts]
  induction g.flatten with
  | nil =>
      rfl
  | cons n ns ih =>
      -- A node has one of the two tags of its kind.
      have either : (if n.kind = k then 1 else 0) =
          (if n.tag = ⟨k, .geoJson⟩ then 1 else 0) + if n.tag = ⟨k, .anyCrs⟩ then 1 else 0 := by
        cases variant : n.header.variant <;> simp [tag, variant]
      simp only [List.map_cons, List.count_cons, ih, beq_iff_eq, Tag.text_inj, Tag.mk.injEq, and_true]
      rw [either]
      omega

/-! ## Inspecting a tree -/

section

variable [Min α] [Max α]

/-- What there is while a tree is inspected: the tree that was given, and a copy to work on. -/
structure Bench (α : Type) where
  given : GeoObject α
  probe : GeoObject α

/-- A report is made on a copy of the tree. Whether it is valid is found out first, which enters the
dimensions, and its boxes are brought up to date; all else is asked of the copy as it is then. -/
def inspect : StateM (Bench α) (GeoReport α) := do
  modify fun b => { b with probe := b.given }
  let valid := (← get).probe.isValid
  modify fun b => { b with probe := b.probe.storeDimensions }
  modify fun b => { b with probe := b.probe.updateBox }
  let probe := (← get).probe
  return {
    tag := probe.tag.text
    valid := valid
    dimension := probe.header.dimension
    tuples := probe.tupleCount
    bbox := probe.header.bbox
    nodes := .ofList (probe.flatten.map fun node => node.tag.text) }

theorem run_inspect (b : Bench α) :
    inspect.run b = (b.given.report, ⟨b.given, b.given.refresh⟩) := by
  -- The copy differs from the tree in dimensions and boxes at most, so it has the same tags and positions.
  rcases tagged_of_withoutCaches (withoutCaches_refresh b.given) with ⟨tag, tuples, tags⟩
  have steps : inspect.run b = (
      { tag := b.given.refresh.tag.text
        valid := b.given.isValid
        dimension := b.given.refresh.header.dimension
        tuples := b.given.refresh.tupleCount
        bbox := b.given.refresh.header.bbox
        nodes := .ofList b.given.refresh.tagTexts }, ⟨b.given, b.given.refresh⟩) := rfl
  rw [steps, tag, tuples, tags]
  rfl

end

end GeoObject

/-- What a report has to do with the one on the same tree before it got another tag. -/
structure GeoReport.Retagged {α : Type} (k : GeoKind) (v : CrsVariant) (r r' : GeoReport α) : Prop where
  tag : r'.tag = Tag.text ⟨k, v⟩
  valid : r'.valid = r.valid
  dimension : r'.dimension = r.dimension
  tuples : r'.tuples = r.tuples
  bbox : r'.bbox = r.bbox
  /-- The counts of a kind are taken together. -/
  count : ∀ k, r'.nodes.count (Tag.text ⟨k, v⟩) =
    r.nodes.count (Tag.text ⟨k, .geoJson⟩) + r.nodes.count (Tag.text ⟨k, .anyCrs⟩)
  noOther : ∀ t ∈ r'.nodes.keys, ∃ k, t = Tag.text ⟨k, v⟩

namespace GeoObject

variable {α : Type} [Min α] [Max α]

theorem tally_report (g : GeoObject α) : g.report.nodes.Tally g.tagTexts :=
  TagCounts.tally_ofList g.tagTexts

theorem retagged_report (v : CrsVariant) (g : GeoObject α) :
    g.report.Retagged g.kind v (g.setVariant v).report := by
  -- It makes no difference whether tags are replaced before dimensions and boxes are stored or after.
  have current : (g.setVariant v).refresh.header = { g.refresh.header with variant := v } := by
    rw [refresh_setVariant, setVariant, header_mapHeaders]
  have dimension : (g.setVariant v).refresh.header.dimension = g.refresh.header.dimension := by
    rw [current]
  have bbox : (g.setVariant v).refresh.header.bbox = g.refresh.header.bbox := by
    rw [current]
  refine ⟨?_, ?_, dimension, tupleCount_mapHeaders _ g, bbox, ?_, ?_⟩
  · simp only [report, setVariant, tag, kind_mapHeaders, header_mapHeaders]
  · simp only [report, isValid, setVariant, dimension?_mapHeaders]
  · intro k
    rw [(tally_report _).count_eq, (tally_report g).count_eq, (tally_report g).count_eq,
      count_tagTexts_setVariant]
  · intro t mem
    rcases List.mem_map.1 mem with ⟨⟨t', n⟩, entry, rfl⟩
    have occurs : t' ∈ (g.setVariant v).tagTexts :=
      List.count_pos_iff.1 (by
        rcases ((tally_report _).mem_iff t' n).1 entry with ⟨positive, same⟩
        rwa [same])
    rw [tagTexts_setVariant] at occurs
    rcases List.mem_map.1 occurs with ⟨node, -, same⟩
    exact ⟨node.kind, same.symm⟩

/-- A report leaves the tree as it was. It counts the tags of all nodes, in increasing order of the tags.
When all tags of a tree are replaced, the report stays the same but for the tags, and the two counts of
each kind are taken together. -/
theorem report_consistent (g : GeoObject α) :
    (∀ probe, inspect.run ⟨g, probe⟩ = (g.report, ⟨g, g.refresh⟩)) ∧
      g.report.nodes.Tally (g.flatten.map fun node => node.tag.text) ∧
      ∀ v, g.report.Retagged g.kind v (g.setVariant v).report :=
  ⟨fun probe => run_inspect ⟨g, probe⟩, tally_report g, fun v => retagged_report v g⟩

end GeoObject
end RefFrame
