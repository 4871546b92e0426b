import RefFrame.Proofs.Geometry.Recoding
import RefFrame.Proofs.Json.Writes

/-!
# Retagging

A new reference system changes the tags of a tree and nothing else (`GeoJson.setVariant_retags`). In the
JSON form of the tree the tags stand where its nodes stand (`GeoObject.placed`): what looks like an object
in the properties of a feature, in its identifier or in a member without a meaning is no node.
-/

namespace RefFrame

namespace GeoObject

open Location

variable {α : Type} {gs : List (GeoObject α)}

/-! ## Where nodes stand -/

mutual

/-- The nodes of a tree in the order of `flatten`, each with the location of its JSON form in that of the
tree. -/
def placed : GeoObject α → List (Location × GeoObject α)
  | simple h c => [([], simple h c)]
  | collection h k gs => ([], collection h k gs) :: below (.key k.field) (placedAll 0 gs)
  | feature h i g => ([], feature h i g) :: below (.key "geometry") (placed g)
  | unlocated h i => [([], unlocated h i)]

/-- `placed` for the elements of an array from an index on. -/
def placedAll (i : Nat) : List (GeoObject α) → List (Location × GeoObject α)
  | [] => []
  | g :: gs => below (.index i) (placed g) ++ placedAll (i + 1) gs

end

theorem mem_placedAll {i : Nat} {p : Location × GeoObject α} (mem : p ∈ placedAll i gs) :
    ∃ j c q, gs[j]? = some c ∧ q ∈ c.placed ∧ p = (.index (i + j) :: q.1, q.2) := by
  induction gs generalizing i with
  | nil =>
      cases mem
  | cons g gs ih =>
      rcases List.mem_append.1 mem with here | later
      · rcases List.mem_map.1 here with ⟨q, inside, rfl⟩
        exact ⟨0, g, q, rfl, inside, rfl⟩
      · rcases ih later with ⟨j, c, q, found, inside, rfl⟩
        refine ⟨j + 1, c, q, found, inside, ?_⟩
        rw [Nat.add_right_comm, Nat.add_assoc]

theorem map_snd_placedAll {i : Nat} (each : ∀ g ∈ gs, g.placed.map Prod.snd = g.flatten) :
    (placedAll i gs).map Prod.snd = flattenAll gs := by
  induction gs generalizing i with
  | nil =>
      rfl
  | cons g gs ih =>
      rcases List.forall_mem_cons.1 each with ⟨here, later⟩
      rw [placedAll, flattenAll, List.map_append, map_snd_below, here, ih later]

theorem map_snd_placed (g : GeoObject α) : g.placed.map Prod.snd = g.flatten := by
  induction g using treeInduction with
  | simple h c =>
      rfl
  | collection h k gs ih =>
      rw [placed, flatten, List.map_cons, map_snd_below, map_snd_placedAll ih]
  | feature h i g ih =>
      rw [placed, flatten, List.map_cons, map_snd_below, ih]
  | unlocated h i =>
      rfl

/-! ## What retagging leaves alone -/

/-- A node that differs from another one in the tag at most. -/
structure Retagged (v : CrsVariant) (n n' : GeoObject α) : Prop where
  /-- Dimension, box and the members without a meaning are as they were. -/
  header : n'.header = { n.header with variant := v }
  kind : n'.kind = n.kind
  coordinates : n'.coordinates? = n.coordinates?
  info : n'.info? = n.info?
  children : n'.children.length = n.children.length

theorem retagged_setVariant (v : CrsVariant) (n : GeoObject α) : Retagged v n (n.setVariant v) where
  header := header_mapHeaders _ n
  kind := kind_mapHeaders _ n
  coordinates := coordinates?_mapHeaders _ n
  info := info?_mapHeaders _ n
  children := by
    rw [setVariant, children_mapHeaders, List.length_map]

theorem forall₂_retagged (v : CrsVariant) (g : GeoObject α) :
    List.Forall₂ (Retagged v) g.flatten (g.setVariant v).flatten := by
  rw [setVariant, flatten_mapHeaders]
  exact List.forall₂_map_right_iff.2 (List.forall₂_same.2 fun n _ => retagged_setVariant v n)

/-! ## Retagging more than once -/

theorem setVariant_foldl (vs : List CrsVariant) (v : CrsVariant) (g : GeoObject α) :
    (vs.foldl (fun g w => g.setVariant w) g).setVariant v = g.setVariant v := by
  induction vs generalizing g with
  | nil =>
      rfl
  | cons w vs ih =>
      rw [List.foldl_cons, ih, setVariant_setVariant]

theorem setVariant_setVariant_eq_self_iff (v w : CrsVariant) (g : GeoObject α) :
    (g.setVariant w).setVariant v = g ↔ ∀ n ∈ g.flatten, n.header.variant = v := by
  rw [setVariant_setVariant]
  constructor
  · intro same n mem
    rw [← same] at mem
    exact variant_of_mem_setVariant mem
  · exact setVariant_eq_self

end GeoObject

namespace GeoJson

open GeoObject Location Json

variable {g : GeoJson} {gs : List GeoJson} {v : CrsVariant}

/-! ## The JSON form of one node -/

theorem get?_type_toJson (g : GeoJson) :
    (toJson g).get? [.key "type"] = some (.str g.tag.text) := by
  cases g <;> rw [toJson, membersOf_eq] <;> rfl

theorem replace?_type_toJson (v : CrsVariant) (g : GeoJson) :
    (toJson g).replace? [.key "type"] (.str (Tag.text ⟨g.kind, v⟩)) =
      some (toJson (g.withHeader { g.header with variant := v })) := by
  cases g <;> simp only [withHeader, toJson, membersOf_eq] <;> rfl

theorem child?_field_toJson (h : Header Float) (k : CollectionKind) (gs : List GeoJson) :
    (toJson (.collection h k gs)).child? (.key k.field) = some (.arr (gs.map toJson)) := by
  rw [toJson, membersOf_eq, toJsonAll_eq]
  cases k <;> rfl

theorem setChild_field_toJson (h : Header Float) (k : CollectionKind) (gs gs' : List GeoJson) :
    (toJson (.collection h k gs)).setChild (.key k.field) (.arr (gs'.map toJson)) =
      toJson (.collection h k gs') := by
  rw [toJson, toJson, membersOf_eq, membersOf_eq, toJsonAll_eq gs']
  cases k <;> rfl

theorem child?_geometry_toJson (h : Header Float) (i : FeatureInfo) (g : GeoJson) :
    (toJson (.feature h i g)).child? (.key "geometry") = some (toJson g) := by
  rw [toJson, membersOf_eq]
  exact get?_geometry_written h i (toJson g)

theorem setChild_geometry_toJson (h : Header Float) (i : FeatureInfo) (g g' : GeoJson) :
    (toJson (.feature h i g)).setChild (.key "geometry") (toJson g') =
      toJson (.feature h i g') := by
  rw [toJson, toJson, membersOf_eq, membersOf_eq]
  rcases i with ⟨properties, _ | id⟩ <;> rfl

/-! ## The JSON form of a tree -/

theorem get?_toJson_of_placed {p : Location × GeoJson} (mem : p ∈ g.placed) :
    (toJson g).get? p.1 = some (toJson p.2) := by
  induction g using treeInduction generalizing p with
  | simple h c =>
      obtain rfl := List.mem_singleton.1 mem
      rfl
  | collection h k gs ih =>
      rcases List.mem_cons.1 mem with rfl | below
      · rfl
      · rcases List.mem_map.1 below with ⟨q, inside, rfl⟩
        rcases mem_placedAll inside with ⟨j, c, q, found, placed, rfl⟩
        have element : (Json.arr (gs.map toJson)).child? (.index (0 + j)) = some (toJson c) := by
          rw [child?, element?, Nat.zero_add, List.getElem?_map, found, Option.map_some]
        rw [get?_cons, child?_field_toJson, Option.bind_some, get?_cons, element, Option.bind_some]
        exact ih c (List.mem_of_getElem? found) placed
  | feature h i g ih =>
      rcases List.mem_cons.1 mem with rfl | below
      · rfl
      · rcases List.mem_map.1 below with ⟨q, inside, rfl⟩
        rw [get?_cons, child?_geometry_toJson, Option.bind_some]
        exact ih inside
  | unlocated h i =>
      obtain rfl := List.mem_singleton.1 mem
      rfl

/-- Where the tag of a placed node stands, and what it is for another reference system. -/
def retag (v : CrsVariant) (p : Location × GeoJson) : Location × Json :=
  (p.1 ++ [.key "type"], .str (Tag.text ⟨p.2.kind, v⟩))

theorem map_retag_below (s : Step) (ps : List (Location × GeoJson)) :
    (below s ps).map (retag v) = below s (ps.map (retag v)) := by
  simp [below, retag]

/-- Retagging the elements of an array from some index on; those before it have been retagged. -/
theorem replaceEach?_elements
    (each : ∀ g ∈ gs, (toJson g).replaceEach? (g.placed.map (retag v)) =
      some (toJson (g.setVariant v))) (done : List Json) :
    (Json.arr (done ++ gs.map toJson)).replaceEach? ((placedAll done.length gs).map (retag v)) =
      some (.arr (done ++ gs.map fun g => toJson (g.setVariant v))) := by
  induction gs generalizing done with
  | nil =>
      rfl
  | cons g gs ih =>
      rcases List.forall_mem_cons.1 each with ⟨here, later⟩
      have child : (Json.arr (done ++ toJson g :: gs.map toJson)).child? (.index done.length) =
          some (toJson g) := by
        simp [child?, element?]
      have set : (Json.arr (done ++ toJson g :: gs.map toJson)).setChild (.index done.length)
          (toJson (g.setVariant v)) =
            .arr ((done ++ [toJson (g.setVariant v)]) ++ gs.map toJson) := by
        simp [setChild]
      have rest := ih later (done ++ [toJson (g.setVariant v)])
      rw [List.length_append, List.length_singleton] at rest
      rw [placedAll, List.map_append, map_retag_below, List.map_cons, List.map_cons,
        replaceEach?_append (replaceEach?_below child here), set, rest, List.append_assoc,
        List.singleton_append]

/-- Writing the new tag wherever a node stands is retagging. -/
theorem replaceEach?_retag (v : CrsVariant) (g : GeoJson) :
    (toJson g).replaceEach? (g.placed.map (retag v)) = some (toJson (g.setVariant v)) := by
  induction g using treeInduction with
  | simple h c =>
      exact replaceEach?_cons (replace?_type_toJson v (.simple h c))
  | collection h k gs ih =>
      have elements : (Json.arr (gs.map toJson)).replaceEach? ((placedAll 0 gs).map (retag v)) =
          some (.arr ((gs.map (setVariant v)).map toJson)) := by
        rw [List.map_map]
        exact replaceEach?_elements ih []
      rw [placed, List.map_cons, map_retag_below]
      -- First the tag of the collection is written, then those in its array.
      calc
        _ = (toJson (.collection { h with variant := v } k gs)).replaceEach?
              (below (.key k.field) ((placedAll 0 gs).map (retag v))) :=
            replaceEach?_cons (replace?_type_toJson v (.collection h k gs))
        _ = some (toJson (.collection { h with variant := v } k (gs.map (setVariant v)))) := by
            rw [replaceEach?_below (child?_field_toJson _ k gs) elements, setChild_field_toJson]
        _ = some (toJson ((GeoObject.collection h k gs).setVariant v)) := by
            rw [setVariant, mapHeaders, mapHeadersAll_eq]
            rfl
  | feature h i g ih =>
      rw [placed, List.map_cons, map_retag_below]
      calc
        _ = (toJson (.feature { h with variant := v } i g)).replaceEach?
              (below (.key "geometry") (g.placed.map (retag v))) :=
            replaceEach?_cons (replace?_type_toJson v (.feature h i g))
        _ = some (toJson (.feature { h with variant := v } i (g.setVariant v))) := by
            rw [replaceEach?_below (child?_geometry_toJson _ i g) ih, setChild_geometry_toJson]
  | unlocated h i =>
      exact replaceEach?_cons (replace?_type_toJson v (.unlocated h i))

theorem pairwise_retag_root {s : Step} {ps : List (Location × GeoJson)} (ne : s ≠ .key "type")
    (n : GeoJson) (apart : (ps.map (retag v)).Pairwise fun w w' => Apart w.1 w'.1) :
    ((([], n) :: below s ps).map (retag v)).Pairwise fun w w' => Apart w.1 w'.1 := by
  rw [List.map_cons, map_retag_below]
  refine List.pairwise_cons.2 ⟨?_, pairwise_apart_below apart s⟩
  intro w mem
  rcases List.mem_map.1 mem with ⟨w, -, rfl⟩
  exact apart_cons_of_ne ne.symm

theorem pairwise_retag_elements {i : Nat}
    (each : ∀ g ∈ gs, (g.placed.map (retag v)).Pairwise fun w w' => Apart w.1 w'.1) :
    ((placedAll i gs).map (retag v)).Pairwise fun w w' => Apart w.1 w'.1 := by
  induction gs generalizing i with
  | nil =>
      exact List.Pairwise.nil
  | cons g gs ih =>
      rcases List.forall_mem_cons.1 each with ⟨here, later⟩
      rw [placedAll, List.map_append, map_retag_below]
      refine List.pairwise_append.2 ⟨pairwise_apart_below here _, ih later, ?_⟩
      intro w mem w' mem'
      rcases List.mem_map.1 mem with ⟨w, -, rfl⟩
      rcases List.mem_map.1 mem' with ⟨p, inside, rfl⟩
      rcases mem_placedAll inside with ⟨j, c, q, -, -, rfl⟩
      -- The nodes of two elements are apart from the index on.
      apply apart_cons_of_ne
      intro same
      have index : i = i + 1 + j := Step.index.inj same
      omega

theorem pairwise_retag (v : CrsVariant) (g : GeoJson) :
    (g.placed.map (retag v)).Pairwise fun w w' => Apart w.1 w'.1 := by
  induction g using treeInduction with
  | simple h c =>
      exact List.pairwise_singleton _ _
  | collection h k gs ih =>
      exact pairwise_retag_root (fun same => (field_ne k).1 (Step.key.inj same)) _
        (pairwise_retag_elements ih)
  | feature h i g ih =>
      exact pairwise_retag_root (by decide) _ ih
  | unlocated h i =>
      exact List.pairwise_singleton _ _

/-- What has been written, and nothing apart from the tags of the nodes. -/
theorem written_retag (v : CrsVariant) (g : GeoJson) :
    Written (g.placed.map (retag v)) (toJson g) (toJson (g.setVariant v)) := by
  have there : ∀ w ∈ g.placed.map (retag v), ((toJson g).get? w.1).isSome := by
    intro w mem
    rcases List.mem_map.1 mem with ⟨p, placed, rfl⟩
    rw [retag, get?_append, get?_toJson_of_placed placed, Option.bind_some, get?_type_toJson,
      Option.isSome_some]
  rcases exists_replaceEach? there (pairwise_retag v g) with ⟨t, done, written⟩
  obtain rfl : toJson (g.setVariant v) = t :=
    Option.some.inj ((replaceEach?_retag v g).symm.trans done)
  exact written

/-- Retagging writes the new tag wherever a node of the tree stands in its JSON form, and nothing else; all
that the nodes hold stays as it was. The last of several tags counts, and a tree that has been tagged
for another system is the same again when it is tagged for GeoJSON if all its nodes were. -/
theorem setVariant_retags (g : GeoJson) (v : CrsVariant) :
    g.placed.map Prod.snd = g.flatten ∧
      (∀ p ∈ g.placed, (toJson g).get? p.1 = some (toJson p.2)) ∧
      (toJson g).replaceEach? (g.placed.map (retag v)) = some (toJson (g.setVariant v)) ∧
      Written (g.placed.map (retag v)) (toJson g) (toJson (g.setVariant v)) ∧
      List.Forall₂ (Retagged v) g.flatten (g.setVariant v).flatten ∧
      (∀ vs, (vs ++ [v]).foldl (fun g w => g.setVariant w) g = g.setVariant v) ∧
      ((g.setVariant .anyCrs).setVariant .geoJson = g ↔
        ∀ n ∈ g.flatten, n.header.variant = .geoJson) := by
  refine ⟨map_snd_placed g, fun p mem => get?_toJson_of_placed mem, replaceEach?_retag v g,
    written_retag v g, forall₂_retagged v g, ?_, setVariant_setVariant_eq_self_iff .geoJson .anyCrs g⟩
  intro vs
  rw [List.foldl_append]
  exact setVariant_foldl vs v g

/-- A feature whose properties look like a geometry. -/
example :
    toJson (GeoObject.setVariant .anyCrs (.feature .new
      ⟨.obj [("type", .str "Point"), ("geometry", .obj [("type", .str "Point")])], none⟩
      (.collection .new .geometries []))) =
    .obj [("type", .str "AnyCrsFeature"),
      ("geometry", .obj [("type", .str "AnyCrsGeometryCollection"), ("geometries", .arr [])]),
      ("properties", .obj [("type", .str "Point"), ("geometry", .obj [("type", .str "Point")])])] :=
  rfl

end GeoJson
end RefFrame
