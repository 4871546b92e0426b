import RefFrame.Geometry.Extent

/-!
# Reports on GeoJSON objects

A report says of a tree whether it is valid, what its dimension and its box are, how many positions
it has, and how many nodes there are of each tag, in the order of the tags.
-/

namespace RefFrame

abbrev TagCounts := List (String × Nat)

def TagCounts.add (tag : String) : TagCounts → TagCounts
  | [] => [(tag, 1)]
  | (t, n) :: rest =>
    if tag = t then (t, n + 1) :: rest
    else if tag < t then (tag, 1) :: (t, n) :: rest
    else (t, n) :: add tag rest

def TagCounts.ofList (tags : List String) : TagCounts :=
  tags.foldl (fun counts t => TagCounts.add t counts) []

/-- A report on a tree. -/
structure GeoReport (α : Type) where
  tag : String
  valid : Bool
  dimension : Nat
  tuples : Nat
  bbox : Option (List α)
  nodes : TagCounts

/-- The report on a tree, with dimension and box brought up to date. -/
def GeoObject.report {α : Type} [Min α] [Max α] (g : GeoObject α) : GeoReport α :=
  let current := g.storeDimensions.updateBox
  { tag := g.tag.text
    valid := g.isValid
    dimension := current.header.dimension
    tuples := g.tupleCount
    bbox := current.header.bbox
    nodes := .ofList (g.flatten.map fun node => node.tag.text) }

end RefFrame
