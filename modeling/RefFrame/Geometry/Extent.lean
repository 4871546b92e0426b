import RefFrame.Geometry.Dimension

/-!
# Bounding boxes

The box of a tree spans its positions along the axes of its dimension. A geometry spans its own
positions, a collection the boxes of what it holds, and a feature has the box of its geometry. A
tree that is not valid has no box, and a feature collection gets one only if it had one before.
-/

namespace RefFrame

/-- A box: a lower and an upper corner. -/
structure Extent (α : Type) where
  lower : List α
  upper : List α

namespace Extent

variable {α : Type}

def ofPosition (p : Position α) : Extent α :=
  ⟨p, p⟩

/-- The box that a list of coordinates means: the first half is the lower corner. -/
def ofList (xs : List α) : Extent α :=
  ⟨xs.take (xs.length / 2), xs.drop (xs.length / 2)⟩

def toList (e : Extent α) : List α :=
  e.lower ++ e.upper

def take (d : Nat) (e : Extent α) : Extent α :=
  ⟨e.lower.take d, e.upper.take d⟩

/-- The least box around two boxes, along the axes that both have. -/
def join [Min α] [Max α] (a b : Extent α) : Extent α :=
  ⟨a.lower.zipWith min b.lower, a.upper.zipWith max b.upper⟩

/-- The least box around several boxes along the first `d` axes; there is none around nothing. -/
def around? [Min α] [Max α] (d : Nat) : List (Extent α) → Option (Extent α)
  | [] => none
  | e :: es => some (es.foldl join (e.take d))

end Extent

namespace GeoObject

variable {α : Type} [Min α] [Max α]

mutual

/-- Enters the boxes of a tree that knows its dimensions. -/
def storeBoxes : GeoObject α → GeoObject α
  | simple h c =>
    let box := (c.dimension?).bind fun d => Extent.around? d (c.positions.map Extent.ofPosition)
    simple { h with bbox := box.map Extent.toList } c
  | collection h k gs =>
    -- Such a collection is passed over with all below it.
    if k = .features ∧ h.bbox.isNone then collection h k gs
    else
      match dimension? (collection h k gs) with
      | none => collection { h with bbox := none } k gs
      | some d =>
        let gs' := storeAllBoxes gs
        -- Children without a box, such as empty collections, span nothing.
        let boxes := gs'.filterMap fun g => g.header.bbox.map Extent.ofList
        collection { h with bbox := (Extent.around? d boxes).map Extent.toList } k gs'
  | feature h i g =>
    match dimension? g with
    | none => feature { h with bbox := none } i g
    | some _ =>
      let g' := storeBoxes g
      feature { h with bbox := g'.header.bbox } i g'
  | unlocated h i => unlocated { h with bbox := none } i

/-- `storeBoxes` for several trees. -/
def storeAllBoxes : List (GeoObject α) → List (GeoObject α)
  | [] => []
  | g :: gs => storeBoxes g :: storeAllBoxes gs

end

/-- A feature collection without a box, which is never given one. -/
def isUnboxed (g : GeoObject α) : Bool :=
  g.kind = .featureCollection && g.header.bbox.isNone

/-- Brings dimensions and boxes of a tree up to date. -/
def updateBox (g : GeoObject α) : GeoObject α :=
  if g.isUnboxed then g else g.storeDimensions.storeBoxes

end GeoObject
end RefFrame
