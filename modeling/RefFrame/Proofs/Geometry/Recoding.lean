import Mathlib.Data.List.Nodup
import RefFrame.Proofs.Geometry.Coordinates
import RefFrame.Proofs.Geometry.RoundTrip

/-!
# Documents that are read and written again

A document that can be read as an object is written again with all that it says
(`GeoJson.Recoded`): at each node the same tag, the same coordinates and the same box in floats, the same
nodes below it in their order, for a feature its properties and its identifier, and the members without
a meaning as they were. Which members are without a meaning depends on the kind of the node. Nothing else
is written, and what is written is read and written again as it is.
-/

namespace RefFrame

namespace Tag

theorem ofText?_eq_some {s : String} {t : Tag} : Tag.ofText? s = some t ↔ s = t.text := by
  rw [ofText?]
  constructor
  · intro found
    have same := List.find?_some found
    exact (beq_iff_eq.1 same).symm
  · rintro rfl
    exact ofText?_text t

end Tag

namespace GeoJson

open GeoObject

variable {v : Json} {g : GeoJson} {ms own : Members} {t : Tag} {kind : GeoKind} {h : Header Float}

/-! ## What a document says of a node -/

/-- What the members of two objects with one tag have in common, whatever the kind; the second object has
no member twice. -/
structure SameFrame (t : Tag) (ms ms' : Members) : Prop where
  tagged : Members.get? ms "type" = some (.str t.text)
  tag : Members.get? ms' "type" = some (.str t.text)
  /-- A box that is `null` is none. -/
  box : Members.get? ms' "bbox" = ((Json.obj ms).present? "bbox").map Json.inFloats
  foreign : ms'.filter (fun m => m.1 ∉ t.kind.ownMembers) =
    ms.filter fun m => m.1 ∉ t.kind.ownMembers
  once : (Members.keys ms').Nodup

/-- What the members of two features have in common, apart from the geometry. -/
structure SameInfo (ms ms' : Members) : Prop where
  id : Members.get? ms' "id" = Members.get? ms "id"
  properties : Members.get? ms' "properties" = some ((Members.get? ms "properties").getD .null)

/-- The second document says at each node what the first one does, with coordinates and boxes in
floats, and nothing else. -/
inductive Recoded : Json → Json → Prop
  | coordinates {ms ms' : Members} {t : Tag} {v : Json} (frame : SameFrame t ms ms')
      (kind : t.kind.hasCoordinates = true) (held : Members.get? ms "coordinates" = some v)
      (same : Members.get? ms' "coordinates" = some v.inFloats) : Recoded (.obj ms) (.obj ms')
  | children {ms ms' : Members} {t : Tag} {k : CollectionKind} {vs vs' : List Json}
      (frame : SameFrame t ms ms') (kind : t.kind = k.kind)
      (held : Members.get? ms k.field = some (.arr vs))
      (same : Members.get? ms' k.field = some (.arr vs')) (below : List.Forall₂ Recoded vs vs') :
      Recoded (.obj ms) (.obj ms')
  | geometry {ms ms' : Members} {t : Tag} {v v' : Json} (frame : SameFrame t ms ms')
      (kind : t.kind = .feature) (info : SameInfo ms ms')
      (held : (Json.obj ms).present? "geometry" = some v)
      (same : Members.get? ms' "geometry" = some v') (below : Recoded v v') :
      Recoded (.obj ms) (.obj ms')
  | unlocated {ms ms' : Members} {t : Tag} (frame : SameFrame t ms ms') (kind : t.kind = .feature)
      (info : SameInfo ms ms') (held : (Json.obj ms).present? "geometry" = none)
      (same : Members.get? ms' "geometry" = some .null) : Recoded (.obj ms) (.obj ms')

/-! ## One node -/

theorem tagOf_eq_ok : tagOf ms = .ok t ↔ Members.get? ms "type" = some (.str t.text) := by
  rw [tagOf]
  cases found : Members.get? ms "type" with
  | none =>
      simp
  | some value =>
      cases value with
      | str s =>
          simp only [Option.some.injEq, Json.str.injEq, ← Tag.ofText?_eq_some]
          cases Tag.ofText? s <;> simp
      | _ =>
          simp

/-- No two members that are written have the same name: those that are an object's own are distinct,
and the members without a meaning bear other names. -/
theorem nodup_keys_written (fits : Fits kind h) (foreign : (Members.keys h.foreign).Nodup)
    (reserved : ∀ k ∈ Members.keys own, k ∈ kind.ownMembers)
    (distinct : ("type" :: "bbox" :: Members.keys own).Nodup) :
    (Members.keys (written kind h own)).Nodup := by
  have listed : List.Sublist ("type" :: (Members.keys (boxMembers h.bbox) ++ Members.keys own))
      ("type" :: "bbox" :: Members.keys own) := by
    cases h.bbox with
    | none =>
        exact (List.sublist_cons_self _ _).cons_cons _
    | some b =>
        exact List.Sublist.refl _
  have known : ∀ k ∈ "type" :: (Members.keys (boxMembers h.bbox) ++ Members.keys own),
      k ∈ kind.ownMembers := by
    intro k mem
    rcases List.mem_cons.1 (listed.subset mem) with rfl | mem
    · exact type_mem_ownMembers kind
    · rcases List.mem_cons.1 mem with rfl | ours
      · exact bbox_mem_ownMembers kind
      · exact reserved k ours
  have apart : ("type" :: (Members.keys (boxMembers h.bbox) ++ Members.keys own) ++
      Members.keys h.foreign).Nodup := by
    refine List.nodup_append.2 ⟨listed.nodup distinct, foreign, ?_⟩
    rintro k mem k' mem' rfl
    rcases List.mem_map.1 mem' with ⟨m, among, same⟩
    exact fits.foreign m among (same ▸ known k mem)
  -- The box is written after what is the object's own.
  have order : (Members.keys (written kind h own)).Perm
      ("type" :: (Members.keys (boxMembers h.bbox) ++ Members.keys own) ++
        Members.keys h.foreign) := by
    simp only [Members.keys, written, List.map_cons, List.map_append, ← List.append_assoc,
      List.cons_append]
    exact (List.perm_append_comm.append_right _).cons _
  exact order.nodup_iff.2 apart

/-- The frame of an object that has been read is written again. -/
theorem sameFrame_written (tagged : tagOf ms = .ok ⟨kind, h.variant⟩)
    (headed : headerOf ⟨kind, h.variant⟩ ms = .ok h) (fits : Fits kind h)
    (unique : (Members.keys ms).Nodup) (reserved : ∀ k ∈ Members.keys own, k ∈ kind.ownMembers)
    (distinct : ("type" :: "bbox" :: Members.keys own).Nodup) :
    SameFrame ⟨kind, h.variant⟩ ms (written kind h own) := by
  rcases headerOf_eq_ok.1 headed with ⟨bbox, boxRead, same⟩
  have unowned : "bbox" ∉ Members.keys own := (List.nodup_cons.1 (List.nodup_cons.1 distinct).2).1
  have proper : ∀ m ∈ own, m.1 ∈ kind.ownMembers ∧ m.1 ≠ "bbox" := by
    intro m mem
    have listed : m.1 ∈ Members.keys own := List.mem_map_of_mem mem
    exact ⟨reserved m.1 listed, fun same => unowned (same ▸ listed)⟩
  have foreign : h.foreign = ms.filter fun m => m.1 ∉ kind.ownMembers :=
    congrArg Header.foreign same
  refine ⟨tagOf_eq_ok.1 tagged, tagOf_eq_ok.1 (tagOf_written kind h own), ?_, ?_, ?_⟩
  · rw [get?_bbox_written fits proper, congrArg Header.bbox same]
    split at boxRead
    · rename_i absent
      rw [absent, boxRead]
      rfl
    · rename_i value found
      rcases boxRead with ⟨b, read, rfl⟩
      rw [found, Option.map_some, Option.map_some, Json.ofPosition_of_box? read]
  · rw [foreign_written fits proper, foreign]
  · refine nodup_keys_written fits ?_ reserved distinct
    rw [foreign]
    exact (List.filter_sublist.map Prod.fst).nodup unique

theorem unique_of_get? {k : String} (unique : (Json.obj ms).UniqueKeys)
    (found : Members.get? ms k = some v) : v.UniqueKeys :=
  Json.uniqueKeysMembers_iff.1 unique.2 (k, v) (Members.mem_of_get? found)

theorem unique_of_mem {vs : List Json} (unique : (Json.arr vs).UniqueKeys) (mem : v ∈ vs) :
    v.UniqueKeys :=
  Json.uniqueKeysAll_iff.1 unique v mem

/-! ## Features -/

theorem get?_members (i : FeatureInfo) (geometry : Json) :
    Members.get? (i.members geometry) "id" = i.id ∧
      Members.get? (i.members geometry) "properties" = some i.properties := by
  rcases i with ⟨properties, _ | id⟩ <;> exact ⟨rfl, rfl⟩

theorem distinct_members (i : FeatureInfo) (geometry : Json) :
    ("type" :: "bbox" :: Members.keys (i.members geometry)).Nodup := by
  rcases i with ⟨properties, _ | id⟩ <;> simp [FeatureInfo.members, Members.keys]

theorem reserved_members (i : FeatureInfo) (geometry : Json) :
    ∀ k ∈ Members.keys (i.members geometry), k ∈ GeoKind.feature.ownMembers := by
  intro k mem
  rcases List.mem_map.1 mem with ⟨m, among, rfl⟩
  exact (proper_members i geometry m among).1

theorem sameInfo_written {geometry : Json} (fits : Fits .feature h) :
    SameInfo ms (written .feature h ((infoOf ms).members geometry)) := by
  rcases get?_members (infoOf ms) geometry with ⟨id, properties⟩
  constructor
  · rw [get?_written_own fits (by decide) (by decide) (by decide), id]
    rfl
  · rw [get?_written_own fits (by decide) (by decide) (by decide), properties]
    rfl

theorem get?_geometry_written (h : Header Float) (i : FeatureInfo) (geometry : Json) :
    Members.get? (written .feature h (i.members geometry)) "geometry" = some geometry := by
  rcases i with ⟨properties, _ | id⟩ <;> rfl

/-! ## Documents -/

theorem recoded_of_parse (unique : v.UniqueKeys) (finite : v.FiniteNumbers) (read : parse v = .ok g) :
    Recoded v (toJson g) := by
  -- By induction on what has been read; what is below a node has been read from parts of the value.
  induction g using treeInduction generalizing v with
  | simple h c =>
      have fits : Fits c.kind h := (writable_of_parse finite read).header
      rcases parse_eq_ok.1 read with ⟨ms, rfl, tagged, headed, value, held, coordinates⟩
      have own := coordinates_mem_ownMembers c
      rw [toJson, membersOf_eq]
      refine .coordinates (sameFrame_written tagged headed fits unique.1 ?_ ?_) ?_ held ?_
      · exact List.forall_mem_singleton.2 own
      · simp [Members.keys]
      · cases c <;> rfl
      · rw [get?_written_own fits own (by decide) (by decide),
          ← Coordinates.toJson_of_readFrom coordinates]
        rfl
  | collection h k gs ih =>
      have fits : Fits k.kind h := (writable_of_parse finite read).header
      rcases parse_eq_ok.1 read with ⟨ms, rfl, tagged, headed, values, held, elements⟩
      have own := field_mem_ownMembers k
      rcases field_ne k with ⟨type, bbox⟩
      have below : List.Forall₂ Recoded values (gs.map toJson) := by
        rcases List.forall₂_iff_zip.1 (mapM_ok_iff.1 elements) with ⟨length, pairs⟩
        refine List.forall₂_map_right_iff.2 (List.forall₂_iff_zip.2 ⟨length, ?_⟩)
        intro value g pair
        rcases List.of_mem_zip pair with ⟨element, child⟩
        exact ih g child (unique_of_mem (unique_of_get? unique held) element)
          ((finite.of_get? held).of_mem element) (pairs pair)
      rw [toJson, toJsonAll_eq, membersOf_eq]
      refine .children (sameFrame_written tagged headed fits unique.1 ?_ ?_) rfl held ?_ below
      · exact List.forall_mem_singleton.2 own
      · simp [Members.keys, type.symm, bbox.symm]
      · rw [get?_written_own fits own type bbox]
        simp [Members.get?]
  | feature h i g ih =>
      have fits : Fits .feature h := (writable_of_parse finite read).header
      rcases parse_eq_ok.1 read with ⟨ms, rfl, tagged, headed, value, held, rfl, below⟩
      have unique' := unique_of_get? unique (Json.present?_eq_some.1 held).1
      have frame := sameFrame_written tagged headed fits unique.1
        (reserved_members (infoOf ms) (toJson g)) (distinct_members (infoOf ms) (toJson g))
      rw [toJson, membersOf_eq]
      exact .geometry frame rfl (sameInfo_written fits) held (get?_geometry_written ..)
        (ih unique' (finite.of_present? held) below)
  | unlocated h i =>
      have fits : Fits .feature h := (writable_of_parse finite read).header
      rcases parse_eq_ok.1 read with ⟨ms, rfl, tagged, headed, held, rfl⟩
      have frame := sameFrame_written tagged headed fits unique.1
        (reserved_members (infoOf ms) .null) (distinct_members (infoOf ms) .null)
      rw [toJson, membersOf_eq]
      exact .unlocated frame rfl (sameInfo_written fits) held (get?_geometry_written ..)

/-! ## Dimensions are not written -/

theorem toJson_mapHeaders {f : Header Float → Header Float}
    (same : ∀ kind h own, membersOf kind (f h) own = membersOf kind h own) (g : GeoJson) :
    toJson (g.mapHeaders f) = toJson g := by
  induction g using treeInduction with
  | simple h c =>
      exact same c.kind h _
  | collection h k gs ih =>
      have below : (gs.map (mapHeaders f)).map toJson = gs.map toJson := by
        rw [List.map_map]
        exact List.map_congr_left ih
      rw [mapHeaders, mapHeadersAll_eq, toJson, toJson, toJsonAll_eq, toJsonAll_eq, below, same]
  | feature h i g ih =>
      rw [mapHeaders, toJson, toJson, ih, same]
  | unlocated h i =>
      exact same .feature h _

theorem toJson_withoutDimensions (g : GeoJson) : toJson g.withoutDimensions = toJson g :=
  toJson_mapHeaders (f := fun h => { h with dimension := defaultDimension }) (fun _ _ _ => rfl) g

theorem toJson_storeDimensions (g : GeoJson) : toJson g.storeDimensions = toJson g := by
  rw [← toJson_withoutDimensions, withoutDimensions_storeDimensions, toJson_withoutDimensions]

/-! ## Reading and writing -/

/-- A document that can be read as an object says the same when it has been written again, and when it
is read once more and written again it stays as it is. As all documents do, it has no member twice, and
its numbers are finite. -/
theorem recoded_toJson (unique : v.UniqueKeys) (finite : v.FiniteNumbers) (read : ofJson v = .ok g) :
    Recoded v (toJson g) ∧ ∃ g', ofJson (toJson g) = .ok g' ∧ toJson g' = toJson g := by
  rcases map_ok_iff.1 read with ⟨parsed, read', rfl⟩
  rw [toJson_storeDimensions]
  refine ⟨recoded_of_parse unique finite read', parsed.withoutDimensions.storeDimensions, ?_, ?_⟩
  · exact ofJson_toJson_of_writable (allWritable_of_parse finite read')
  · rw [toJson_storeDimensions, toJson_withoutDimensions]

/-- A feature with a member `coordinates`, around a point with a member `geometry`. -/
def survey : Json :=
  .obj [("name", .str "A-1"), ("type", .str "AnyCrsFeature"), ("bbox", .null),
    ("coordinates", .str "see below"),
    ("geometry", .obj [("geometry", .num (.int 1)), ("type", .str "Point"),
      ("coordinates", .arr [.num (.float 1.5), .num (.int 2)])])]

/-- These members have no meaning where they stand, and are kept. -/
theorem recoded_toJson_survey :
    ∃ g, ofJson survey = .ok g ∧ Recoded survey (toJson g) ∧
      toJson g = .obj [("type", .str "AnyCrsFeature"),
        ("geometry", .obj [("type", .str "Point"),
          ("coordinates", .arr [.num (.float 1.5), .num (.float (Float.ofInt 2))]),
          ("geometry", .num (.int 1))]),
        ("properties", .null), ("name", .str "A-1"), ("coordinates", .str "see below")] ∧
      ∃ g', ofJson (toJson g) = .ok g' ∧ toJson g' = toJson g := by
  have unique : survey.UniqueKeys := by
    simp [survey, Json.UniqueKeys, Json.UniqueKeysAll, Json.UniqueKeysMembers, Members.keys]
  have finite : survey.FiniteNumbers := by
    refine ⟨trivial, trivial, trivial, trivial, ⟨?_, trivial, ⟨rfl, rfl, trivial⟩, trivial⟩, trivial⟩
    rfl
  have point : parse (.obj [("geometry", .num (.int 1)), ("type", .str "Point"),
      ("coordinates", .arr [.num (.float 1.5), .num (.int 2)])]) = .ok
      (.simple ⟨.geoJson, 3, none, [("geometry", .num (.int 1))]⟩
        (.point [1.5, Float.ofInt 2])) :=
    parse_eq_ok.2 ⟨_, rfl, rfl, rfl, _, rfl, rfl⟩
  have parsed : parse survey = .ok
      (.feature ⟨.anyCrs, 3, none, [("name", .str "A-1"), ("coordinates", .str "see below")]⟩
        ⟨.null, none⟩ (.simple ⟨.geoJson, 3, none, [("geometry", .num (.int 1))]⟩
          (.point [1.5, Float.ofInt 2]))) :=
    parse_eq_ok.2 ⟨_, rfl, rfl, rfl, _, rfl, rfl, point⟩
  have read : ofJson survey = .ok (storeDimensions
      (.feature ⟨.anyCrs, 3, none, [("name", .str "A-1"), ("coordinates", .str "see below")]⟩
        ⟨.null, none⟩ (.simple ⟨.geoJson, 3, none, [("geometry", .num (.int 1))]⟩
          (.point [1.5, Float.ofInt 2])))) :=
    map_ok_iff.2 ⟨_, parsed, rfl⟩
  rcases recoded_toJson unique finite read with ⟨recoded, again⟩
  exact ⟨_, read, recoded, rfl, again⟩

end GeoJson
end RefFrame
