import RefFrame.Zone.Library

/-!
# Looking up local times

`Timeline.localTimes` goes back from a local time to the instants that show it, along the changes of a
timeline. It finds none when the clock is put forward over the local time, and two when it is put back
over it. What is found counts only if all of it meets a condition, such as that the calendar has it
(`LocalTimes.within`).
-/

namespace RefFrame

def LocalTimes.within (p : Int → Bool) : LocalTimes → LocalTimes
  | none => none
  | one u => if p u then one u else none
  | two u v => if p u && p v then two u v else none

namespace Timeline

/-- Whether an instant is not before a start, if there is one. -/
def notBefore : Option Int → Int → Bool
  | none, _ => true
  | some start, u => start ≤ u

/-- The first instant from a start on that shows a local time, where an offset is in force from the
start to the first of the changes. -/
def earliestFrom (start : Option Int) (offset : Int) : List Change → Int → Option Int
  | [], l => if notBefore start (l - offset) then some (l - offset) else none
  | c :: cs, l =>
    -- The instant belongs to this stretch if its offset is still in force then.
    if notBefore start (l - offset) && l - offset < c.instant then some (l - offset)
    else earliestFrom (some c.instant) c.offset cs l

/-- The changes that put the clock back over a local time. -/
def repeating (z : Timeline) (l : Int) : List Change :=
  z.changes.filter fun c => c.instant + c.offset ≤ l && l < c.instant + z.offsetBefore c

/-- The instants that show a local time: one on either side of a change that puts the clock back over
it, else the only one there is, if any. -/
def localTimes (z : Timeline) (l : Int) : LocalTimes :=
  match z.repeating l with
  | c :: cs => .two (l - z.offsetBefore c) (l - ((c :: cs).getLast (List.cons_ne_nil c cs)).offset)
  | [] => (earliestFrom none z.initial z.changes l).elim .none .one

end Timeline
end RefFrame
