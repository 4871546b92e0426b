import RefFrame.Geometry.Basic

/-!
# Validity and dimension

A geometry is valid when it has enough positions and each has at least two coordinates; its
dimension is the length of its shortest position. A collection is valid when all it holds is, and a
feature when it has a valid geometry; the least dimension below counts. Where nothing can be
counted the dimension is three.

`dimension?` computes the dimension of a valid tree, `storeDimensions` enters it at every valid
node, and `tupleCount` counts positions.
-/

namespace RefFrame

/-- The least of some numbers, if there are any. -/
def least? : List Nat → Option Nat
  | [] => none
  | n :: ns => some (ns.foldl min n)

/-- The least of some numbers, or the default dimension if there are none. -/
def leastDimension (ns : List Nat) : Nat :=
  (least? ns).getD defaultDimension

namespace Coordinates

variable {α : Type}

/-- The fewest coordinates that a position may have. -/
def leastWidth : Nat := 2

/-- The fewest positions that a ring may have. -/
def leastRing : Nat := 4

def wide (ps : List (Position α)) : Bool :=
  ps.all fun p => leastWidth ≤ p.length

def isValid : Coordinates α → Bool
  | point p => wide [p]
  | multiPoint ps => ps ≠ [] && wide ps
  | lineString ps => ps ≠ [] && wide ps
  | multiLineString ls => ls ≠ [] && ls.all fun ps => ps ≠ [] && wide ps
  | polygon rs => rs.all fun ps => leastRing ≤ ps.length && wide ps
  | multiPolygon gs => gs.flatten.all fun ps => leastRing ≤ ps.length && wide ps

def dimension? (c : Coordinates α) : Option Nat :=
  if c.isValid then some (leastDimension (c.positions.map List.length)) else none

/-- The number of positions; a point that is too short is none. -/
def tupleCount : Coordinates α → Nat
  | point p => if leastWidth ≤ p.length then 1 else 0
  | c => c.positions.length

end Coordinates

namespace GeoObject

variable {α : Type}

mutual

def dimension? : GeoObject α → Option Nat
  | simple _ c => c.dimension?
  | collection _ _ gs => (dimensions? gs).map leastDimension
  | feature _ _ g => dimension? g
  | unlocated _ _ => none

def dimensions? : List (GeoObject α) → Option (List Nat)
  | [] => some []
  | g :: gs =>
    match dimension? g, dimensions? gs with
    | some d, some ds => some (d :: ds)
    | _, _ => none

end

def isValid (g : GeoObject α) : Bool :=
  g.dimension?.isSome

/-- Enters the dimension of a node, if it is valid, into a header. -/
def withDimension (g : GeoObject α) (h : Header α) : Header α :=
  { h with dimension := g.dimension?.getD h.dimension }

mutual

def storeDimensions : GeoObject α → GeoObject α
  | simple h c => simple ((simple h c).withDimension h) c
  | collection h k gs => collection ((collection h k gs).withDimension h) k (storeAllDimensions gs)
  | feature h i g => feature ((feature h i g).withDimension h) i (storeDimensions g)
  | unlocated h i => unlocated h i

/-- `storeDimensions` for several trees. -/
def storeAllDimensions : List (GeoObject α) → List (GeoObject α)
  | [] => []
  | g :: gs => storeDimensions g :: storeAllDimensions gs

end

mutual

def tupleCount : GeoObject α → Nat
  | simple _ c => c.tupleCount
  | collection _ _ gs => tupleCounts gs
  | feature _ _ g => tupleCount g
  | unlocated _ _ => 0

def tupleCounts : List (GeoObject α) → Nat
  | [] => 0
  | g :: gs => tupleCount g + tupleCounts gs

end

end GeoObject
end RefFrame
