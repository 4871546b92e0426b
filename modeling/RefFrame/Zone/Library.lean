import RefFrame.Zone.Timeline

/-!
# The library of zones

Which places there are, and at which instants the clock of a place shows a local time, is for a library
to know. `ZoneLibrary` is what is asked of it. A clock that is put forward jumps over local times, and one
that is put back shows some of them again, so the library has three ways to answer.
-/

namespace RefFrame

/-- The instants at which a clock shows a local time. -/
inductive LocalTimes
  | none
  | one (instant : Int)
  | two (first last : Int)
  deriving DecidableEq, Repr

def LocalTimes.earliest? : LocalTimes → Option Int
  | none => .none
  | one u => some u
  | two u _ => some u

/-- What is known of the time in places. -/
class ZoneLibrary where
  /-- The places by their names, which are matched letter by letter. -/
  places : List (String × Timeline)
  /-- When a place with the timeline has the local time. -/
  localTimes : Timeline → Int → LocalTimes

end RefFrame
