/-!
# The offsets of a place over time

A timeline is the offset of a place before its first change, and the changes in the order of time,
each with the offset that begins with it. `Timeline.offsetAt` reads the offset in force at an
instant.

Instants and local times are whole seconds since the beginning of 1970, in UTC and on the local
clock; offsets are seconds east.
-/

namespace RefFrame

/-- From an instant on, another offset is in force. -/
structure Change where
  instant : Int
  offset : Int
  deriving DecidableEq, Repr

/-- The offsets of a place. -/
structure Timeline where
  initial : Int
  changes : List Change
  deriving DecidableEq, Repr

namespace Timeline

/-- The last offset of changes that have come by an instant, after a given one. -/
def offsetAfter (offset : Int) : List Change → Int → Int
  | [], _ => offset
  | c :: cs, u => if c.instant ≤ u then offsetAfter c.offset cs u else offset

def offsetAt (z : Timeline) (u : Int) : Int :=
  offsetAfter z.initial z.changes u

/-- The offset that a change puts an end to. -/
def offsetBefore (z : Timeline) (c : Change) : Int :=
  z.offsetAt (c.instant - 1)

end Timeline
end RefFrame
