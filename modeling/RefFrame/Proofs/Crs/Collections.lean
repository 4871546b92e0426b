import RefFrame.Crs.Collections
import RefFrame.Proofs.Geometry.Reachable

/-!
# Collections on their way to be converted and back

A request to convert a collection is read back as it was, and the collection that a reply carries comes
out tagged for GeoJSON: the collection that was sent, if it was tagged so before
(`GeoJson.Reachable.request_reply`). What is read is the whole tree, since a valid tree is read with the
dimensions that its nodes remember (`GeoJson.Orderly.ofJson_toJson`).
-/

namespace RefFrame

namespace GeoJson

open GeoObject

variable {g : GeoJson}

/-- An orderly tree that is valid is read back as it was, dimensions included. -/
theorem Orderly.ofJson?_toJson (h : Orderly g) (valid : g.isValid = true) :
    ofJson? (toJson g) = some g := by
  rcases Option.isSome_iff_exists.1 valid with ⟨d, known⟩
  have read : ofJson (toJson g) = .ok g := by
    rw [ofJson_toJson_of_writable h.writable, storeDimensions_withoutDimensions known, h.measured]
  rw [ofJson?, read]
  rfl

end GeoJson

open GeoJson GeoObject

variable {g : GeoJson} {crs : String} {unit : Option String}

namespace CollectionRequest

variable {r : CollectionRequest}

theorem new_eq_ok :
    new g crs unit = .ok r ↔
      g.kind = .featureCollection ∧ g.isValid = true ∧
        r = ⟨g.storeDimensions.setVariant .anyCrs, crs, unit⟩ := by
  rw [new]
  split
  · rename_i other
    simp [other]
  · rename_i kind
    have same : g.kind = .featureCollection := Classical.not_not.1 kind
    cases valid : g.isValid with
    | false =>
        simp
    | true =>
        simp [same, eq_comm]

/-- What a request carries is read; then the names follow. -/
theorem ofJson?_toJson (read : GeoJson.ofJson? (GeoJson.toJson r.collection) = some r.collection) :
    ofJson? r.toJson = some r := by
  rcases r with ⟨collection, crs, unit⟩
  cases unit <;> simp [ofJson?, toJson, Fields.of?, Fields.required, Fields.orElse, Fields.get?,
    Members.get?, List.lookup_cons, read, Json.text?, Json.nullable?]

end CollectionRequest

namespace CollectionReply

variable {c : GeoJson} {v : Json} {f : Fields}

/-- A reply with a collection that can be read is read, if its operations can be. -/
theorem ofJson?_of_carries (fields : Fields.of? 2 v = some f)
    (carries : f.get? 0 "featureCollection" = some (GeoJson.toJson c))
    (read : GeoJson.ofJson? (GeoJson.toJson c) = some c) :
    ofJson? v = (operations? f).map (CollectionReply.mk c) := by
  simp only [ofJson?, fields, Fields.required, carries, read, Option.bind_some, Option.bind_eq_bind]
  cases operations? f <;> rfl

end CollectionReply

/-- A tree that can be reached makes a request to convert it exactly if it is a valid feature collection.
The request carries the tree with the tag of all nodes exchanged and all else as it was, and is read back
as the same request.

Let a reply carry that collection, as an object or as a row of its fields. It is read if its operations
can be, and if the tree was tagged for GeoJSON throughout, it comes out of the reply. -/
theorem GeoJson.Reachable.request_reply (h : Reachable g) (crs : String) (unit : Option String) :
    ((∃ r, CollectionRequest.new g crs unit = .ok r) ↔
        g.kind = .featureCollection ∧ g.isValid = true) ∧
      ∀ r, CollectionRequest.new g crs unit = .ok r →
        (r.toCrs = crs ∧ r.toUnitZ = unit ∧ r.collection = g.setVariant .anyCrs ∧
          (∀ n ∈ r.collection.flatten, n.header.variant = .anyCrs) ∧
          ∀ w, r.collection.setVariant w = g.setVariant w) ∧
        CollectionRequest.ofJson? r.toJson = some r ∧
        ∀ v f, Fields.of? 2 v = some f →
          f.get? 0 "featureCollection" = some (GeoJson.toJson r.collection) →
            CollectionReply.ofJson? v = (operations? f).map (CollectionReply.mk r.collection) ∧
              ((∀ n ∈ g.flatten, n.header.variant = .geoJson) →
                ∀ reply, CollectionReply.ofJson? v = some reply → reply.geoJson = g) := by
  constructor
  · constructor
    · rintro ⟨r, made⟩
      rcases CollectionRequest.new_eq_ok.1 made with ⟨kind, valid, -⟩
      exact ⟨kind, valid⟩
    · rintro ⟨kind, valid⟩
      exact ⟨_, CollectionRequest.new_eq_ok.2 ⟨kind, valid, rfl⟩⟩
  · intro r made
    rcases CollectionRequest.new_eq_ok.1 made with ⟨-, valid, rfl⟩
    have orderly := h.orderly.setVariant .anyCrs
    have valid' : (g.setVariant .anyCrs).isValid = true := by
      rwa [isValid, GeoObject.setVariant, dimension?_mapHeaders]
    have read := orderly.ofJson?_toJson valid'
    rw [h.orderly.measured]
    refine ⟨⟨rfl, rfl, rfl, fun n mem => variant_of_mem_setVariant mem,
      fun w => setVariant_setVariant .anyCrs w g⟩, CollectionRequest.ofJson?_toJson read, ?_⟩
    intro v f fields carries
    have back := CollectionReply.ofJson?_of_carries fields carries read
    refine ⟨back, ?_⟩
    intro tagged reply replied
    rw [back] at replied
    rcases Option.map_eq_some_iff.1 replied with ⟨operations, -, rfl⟩
    calc
      (g.setVariant .anyCrs).setVariant .geoJson = g.setVariant .geoJson :=
        setVariant_setVariant .anyCrs .geoJson g
      _ = g := setVariant_eq_self tagged

/-- A collection of one well. -/
def wells : GeoJson :=
  ofChildren .features [ofFeature ⟨.null, some (.num (.int 7))⟩ (some moved)]

theorem reachable_wells : Reachable wells := by
  refine .collection .features ?_
  intro g mem
  obtain rfl := List.mem_singleton.1 mem
  refine .feature _ ?_
  intro c same
  obtain rfl := Option.some.inj same
  exact reachable_moved

/-- The reply is written as a row, and its operations are left out. -/
theorem request_reply_wells :
    Reachable wells ∧ (∀ n ∈ wells.flatten, n.header.variant = .geoJson) ∧
      ∃ r, CollectionRequest.new wells "EPSG:4326" (some "m") = .ok r ∧
        CollectionRequest.ofJson? r.toJson = some r ∧
        ∃ reply, CollectionReply.ofJson? (.arr [GeoJson.toJson r.collection]) = some reply ∧
          reply.geoJson = wells := by
  have tagged : ∀ n ∈ wells.flatten, n.header.variant = .geoJson := by
    decide
  rcases reachable_wells.request_reply "EPSG:4326" (some "m") with ⟨made, carried⟩
  rcases made.2 ⟨rfl, rfl⟩ with ⟨r, new⟩
  rcases carried r new with ⟨-, request, replies⟩
  rcases replies (.arr [GeoJson.toJson r.collection]) _ rfl rfl with ⟨reply, back⟩
  exact ⟨reachable_wells, tagged, r, new, request, _, reply, back tagged _ reply⟩

end RefFrame
