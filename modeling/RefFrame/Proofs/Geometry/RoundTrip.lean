import RefFrame.Geometry.Encode
import RefFrame.Proofs.Geometry.Writable

/-!
# Reading back what was written

A tree that can be written is read back as it was, but for its dimensions, which are not written
(`GeoJson.parse_toJson`): first its lists of coordinates, then its header, then the tree.
-/

namespace RefFrame

theorem Tag.ofText?_text (t : Tag) : Tag.ofText? t.text = some t := by
  rcases t with ⟨kind, variant⟩
  cases kind <;> cases variant <;> decide

/-! ## Lists of coordinates -/

namespace Json

variable {β : Type} {p : Position Float}

theorem listOf?_ofList {read : Json → Except CoordinateFault β} {write : β → Json} {xs : List β}
    (each : ∀ x ∈ xs, read (write x) = .ok x) : (ofList write xs).listOf? read = .ok xs := by
  have all : (xs.map write).mapM read = .ok (xs.map id) := mapM_map_ok each
  rw [List.map_id] at all
  exact all

theorem position?_ofPosition (finite : ∀ x ∈ p, x.isFinite = true) :
    (ofPosition p).position? = .ok p := by
  apply listOf?_ofList
  intro x mem
  rw [ofFloat, if_pos (finite x mem)]
  rfl

theorem box?_ofPosition (finite : ∀ x ∈ p, x.isFinite = true) (even : p.length % 2 = 0)
    (long : 4 ≤ p.length) : (ofPosition p).box? = .ok p :=
  box?_eq_ok.2 ⟨position?_ofPosition finite, even, long⟩

end Json

theorem Coordinates.readFrom_toJson {c : Coordinates Float} (finite : c.Finite) :
    c.ReadFrom c.toJson := by
  have points : ∀ {ps : List (Position Float)}, (∀ p ∈ ps, ∀ x ∈ p, x.isFinite = true) →
      (Json.ofList .ofPosition ps).listOf? Json.position? = .ok ps := by
    intro ps finite
    exact Json.listOf?_ofList fun p mem => Json.position?_ofPosition (finite p mem)
  have lines : ∀ {ls : List (List (Position Float))},
      (∀ p ∈ ls.flatten, ∀ x ∈ p, x.isFinite = true) →
      (Json.ofList (.ofList .ofPosition) ls).listOf? (Json.listOf? Json.position?) = .ok ls := by
    intro ls finite
    apply Json.listOf?_ofList
    intro ps mem
    exact points fun p inside => finite p (List.mem_flatten.2 ⟨ps, mem, inside⟩)
  cases c with
  | point p =>
      exact Json.position?_ofPosition (finite p (List.mem_singleton_self p))
  | multiPoint ps =>
      exact points finite
  | lineString ps =>
      exact points finite
  | multiLineString ls =>
      exact lines finite
  | polygon rs =>
      exact lines finite
  | multiPolygon gs =>
      apply Json.listOf?_ofList
      intro rs mem
      apply lines
      intro p inside
      rcases List.mem_flatten.1 inside with ⟨ps, ring, position⟩
      exact finite p (List.mem_flatten.2 ⟨ps, List.mem_flatten.2 ⟨rs, mem, ring⟩, position⟩)

/-! ## Members -/

theorem Members.get?_eq_none {ms : Members} {k : String} (absent : ∀ m ∈ ms, m.1 ≠ k) :
    ms.get? k = none := by
  apply List.lookup_eq_none_iff.2
  intro m mem
  exact bne_iff_ne.2 (absent m mem).symm

namespace GeoJson

open GeoObject

variable {kind : GeoKind} {h : Header Float} {own : Members} {k : String}

/-- The member for a box, if there is one. -/
def boxMembers : Option (List Float) → Members
  | some b => [("bbox", Json.ofPosition b)]
  | none => []

/-- All members of an object of a kind, given those that are its own. -/
def written (kind : GeoKind) (h : Header Float) (own : Members) : Members :=
  ("type", .str (Tag.text ⟨kind, h.variant⟩)) :: (own ++ (boxMembers h.bbox ++ h.foreign))

theorem membersOf_eq (kind : GeoKind) (h : Header Float) (own : Members) :
    membersOf kind h own = .obj (written kind h own) := by
  cases box : h.bbox <;> simp [membersOf, written, boxMembers, box]

theorem get?_boxMembers (box : Option (List Float)) (k : String) :
    Members.get? (boxMembers box) k = if k = "bbox" then box.map Json.ofPosition else none := by
  cases box with
  | none =>
      simp [boxMembers, Members.get?]
  | some b =>
      by_cases same : k = "bbox"
      · subst same
        simp [boxMembers, Members.get?]
      · simp [boxMembers, Members.get?, same, List.lookup_cons, beq_false_of_ne same]

theorem tagOf_written (kind : GeoKind) (h : Header Float) (own : Members) :
    tagOf (written kind h own) = .ok ⟨kind, h.variant⟩ := by
  have first : Members.get? (written kind h own) "type" =
      some (.str (Tag.text ⟨kind, h.variant⟩)) := by
    simp [written, Members.get?]
  simp only [tagOf, first, Tag.ofText?_text]

theorem type_mem_ownMembers (kind : GeoKind) : "type" ∈ kind.ownMembers := by
  cases kind <;> decide

theorem bbox_mem_ownMembers (kind : GeoKind) : "bbox" ∈ kind.ownMembers := by
  cases kind <;> decide

section Reserved

variable (fits : Fits kind h)

include fits

theorem get?_written (reserved : k ∈ kind.ownMembers) (type : k ≠ "type") :
    Members.get? (written kind h own) k =
      (Members.get? own k).or (if k = "bbox" then h.bbox.map Json.ofPosition else none) := by
  have last : Members.get? h.foreign k = none := by
    apply Members.get?_eq_none
    rintro m mem rfl
    exact fits.foreign m mem reserved
  calc
    Members.get? (written kind h own) k
        = (Members.get? own k).or
            ((Members.get? (boxMembers h.bbox) k).or (Members.get? h.foreign k)) := by
          simp only [written, Members.get?, List.lookup_cons, beq_false_of_ne type,
            List.lookup_append]
    _ = (Members.get? own k).or (if k = "bbox" then h.bbox.map Json.ofPosition else none) := by
          rw [last, get?_boxMembers, Option.or_none]

theorem get?_written_own (reserved : k ∈ kind.ownMembers) (type : k ≠ "type")
    (bbox : k ≠ "bbox") : Members.get? (written kind h own) k = Members.get? own k := by
  rw [get?_written fits reserved type, if_neg bbox, Option.or_none]

theorem foreign_written (proper : ∀ m ∈ own, m.1 ∈ kind.ownMembers ∧ m.1 ≠ "bbox") :
    (written kind h own).filter (fun m => m.1 ∉ kind.ownMembers) = h.foreign := by
  have ours : own.filter (fun m => m.1 ∉ kind.ownMembers) = [] := by
    apply List.filter_eq_nil_iff.2
    intro m mem
    simp [(proper m mem).1]
  have boxed : (boxMembers h.bbox).filter (fun m => m.1 ∉ kind.ownMembers) = [] := by
    cases h.bbox <;> simp [boxMembers, bbox_mem_ownMembers]
  have others : h.foreign.filter (fun m => m.1 ∉ kind.ownMembers) = h.foreign := by
    apply List.filter_eq_self.2
    intro m mem
    simp [fits.foreign m mem]
  rw [written, List.filter_cons_of_neg (by simp [type_mem_ownMembers]), List.filter_append,
    List.filter_append, ours, boxed, others]
  rfl

theorem get?_bbox_written (proper : ∀ m ∈ own, m.1 ∈ kind.ownMembers ∧ m.1 ≠ "bbox") :
    Members.get? (written kind h own) "bbox" = h.bbox.map Json.ofPosition := by
  have unowned : Members.get? own "bbox" = none :=
    Members.get?_eq_none fun m mem => (proper m mem).2
  rw [get?_written fits (bbox_mem_ownMembers kind) (by decide), unowned, if_pos rfl, Option.none_or]

/-- What is written of a header is the header without its dimension. -/
theorem headerOf_written (proper : ∀ m ∈ own, m.1 ∈ kind.ownMembers ∧ m.1 ≠ "bbox") :
    headerOf ⟨kind, h.variant⟩ (written kind h own) =
      .ok { h with dimension := defaultDimension } := by
  refine headerOf_eq_ok.2 ⟨h.bbox, ?_, ?_⟩
  · rw [Json.present?, Json.member?, get?_bbox_written fits proper]
    cases present : h.bbox with
    | none =>
        rfl
    | some b =>
        rcases fits.box b present with ⟨even, long, finite⟩
        exact ⟨b, Json.box?_ofPosition finite even long, rfl⟩
  · rw [foreign_written fits proper]

end Reserved

/-! ## Trees -/

theorem toJsonAll_eq (gs : List GeoJson) : toJsonAll gs = gs.map toJson := by
  induction gs with
  | nil =>
      rfl
  | cons g gs ih =>
      rw [toJsonAll, ih, List.map_cons]

variable {g : GeoJson}

theorem parse_membersOf (writable : Writable g)
    (proper : ∀ m ∈ own, m.1 ∈ g.kind.ownMembers ∧ m.1 ≠ "bbox")
    (held : HeldBy (written g.kind g.header own) g.withoutDimensions) :
    parse (membersOf g.kind g.header own) = .ok g.withoutDimensions := by
  have tag : g.withoutDimensions.tag = ⟨g.kind, g.header.variant⟩ := by
    simp [withoutDimensions, GeoObject.tag]
  have header : g.withoutDimensions.header = { g.header with dimension := defaultDimension } := by
    simp [withoutDimensions]
  refine parse_eq_ok.2 ⟨_, membersOf_eq g.kind g.header own, ?_, ?_, held⟩
  · rw [tag, tagOf_written]
  · rw [tag, header, headerOf_written writable.header proper]

theorem coordinates_mem_ownMembers (c : Coordinates Float) :
    "coordinates" ∈ c.kind.ownMembers := by
  cases c <;> simp [Coordinates.kind, GeoKind.ownMembers]

theorem field_mem_ownMembers (k : CollectionKind) : k.field ∈ k.kind.ownMembers := by
  cases k <;> decide

theorem field_ne (k : CollectionKind) : k.field ≠ "type" ∧ k.field ≠ "bbox" := by
  cases k <;> decide

theorem proper_members (i : FeatureInfo) (geometry : Json) :
    ∀ m ∈ i.members geometry, m.1 ∈ GeoKind.feature.ownMembers ∧ m.1 ≠ "bbox" := by
  rcases i with ⟨properties, _ | id⟩ <;> simp [FeatureInfo.members, GeoKind.ownMembers]

theorem infoOf_written {i : FeatureInfo} {geometry : Json}
    (fits : Fits .feature h) :
    infoOf (written .feature h (i.members geometry)) = i := by
  rw [infoOf, get?_written_own fits (by decide) (by decide) (by decide),
    get?_written_own fits (by decide) (by decide) (by decide)]
  rcases i with ⟨properties, _ | id⟩ <;> rfl

theorem present?_geometry_written {i : FeatureInfo} {geometry : Json}
    (fits : Fits .feature h) :
    (Json.obj (written .feature h (i.members geometry))).present? "geometry" =
      if geometry.isNull then none else some geometry := by
  have found : Members.get? (i.members geometry) "geometry" = some geometry := by
    rcases i with ⟨properties, _ | id⟩ <;> rfl
  rw [Json.present?, Json.member?, get?_written_own fits (by decide) (by decide) (by decide),
    found]
  cases geometry <;> rfl

theorem isNull_toJson (g : GeoJson) : (toJson g).isNull = false := by
  cases g <;> rw [toJson, membersOf_eq] <;> rfl

/-- A tree that can be written is read back as it was, without its dimensions. -/
theorem parse_toJson (writable : AllWritable g) : parse (toJson g) = .ok g.withoutDimensions := by
  -- The names that a kind has given a meaning are found where they were written, since no other
  -- member bears one.
  induction g using treeInduction with
  | simple h c =>
      have here := (allWritable_iff.1 writable).1
      have own := coordinates_mem_ownMembers c
      apply parse_membersOf here
      · rintro m mem
        obtain rfl := List.mem_singleton.1 mem
        exact ⟨own, show "coordinates" ≠ "bbox" by decide⟩
      · refine ⟨c.toJson, ?_, Coordinates.readFrom_toJson here.finite⟩
        rw [get?_written_own here.header own (by decide) (by decide)]
        rfl
  | collection h k gs ih =>
      have here := (allWritable_iff.1 writable).1
      have own := field_mem_ownMembers k
      rcases field_ne k with ⟨type, bbox⟩
      rw [toJson, toJsonAll_eq]
      apply parse_membersOf here
      · rintro m mem
        obtain rfl := List.mem_singleton.1 mem
        exact ⟨own, bbox⟩
      · refine ⟨gs.map toJson, ?_, ?_⟩
        · rw [get?_written_own here.header own type bbox]
          simp [Members.get?]
        · rw [mapHeadersAll_eq]
          exact mapM_map_ok fun g mem => ih g mem (writable.child mem)
  | feature h i g ih =>
      have here := (allWritable_iff.1 writable).1
      apply parse_membersOf here (proper_members i (toJson g))
      refine ⟨toJson g, ?_, ?_, ?_⟩
      · refine (present?_geometry_written here.header).trans ?_
        rw [isNull_toJson]
        rfl
      · exact (infoOf_written here.header).symm
      · exact ih (writable.child (List.mem_singleton_self g))
  | unlocated h i =>
      have here := (allWritable_iff.1 writable).1
      apply parse_membersOf here (proper_members i .null)
      exact ⟨present?_geometry_written here.header, (infoOf_written here.header).symm⟩

theorem ofJson_toJson_of_writable (writable : AllWritable g) :
    ofJson (toJson g) = .ok g.withoutDimensions.storeDimensions := by
  rw [ofJson, parse_toJson writable]
  rfl

end GeoJson
end RefFrame
