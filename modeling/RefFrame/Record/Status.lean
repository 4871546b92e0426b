/-!
# Outcomes of a record

The outcome of normalizing a record is one of three, in an order where a later one wins: nothing to
act on, success, error.
-/

namespace RefFrame

/-- How a record came out, the weakest outcome first. -/
inductive Status
  /-- The record says nothing about frames of reference. -/
  | noFrame
  | success
  | error
  deriving DecidableEq, Repr

namespace Status

/-- The place of an outcome in the order. -/
def rank : Status → Nat
  | noFrame => 0
  | success => 1
  | error => 2

/-- The stronger of two outcomes. -/
def merge (a b : Status) : Status :=
  if a.rank < b.rank then b else a

/-- The name of an outcome. -/
def text : Status → String
  | noFrame => "NO_FRAME_OF_REFERENCE"
  | success => "SUCCESS"
  | error => "ERROR"

/-- The outcome with a name. -/
def ofText? (s : String) : Option Status :=
  [noFrame, success, error].find? fun st => st.text == s

/-- The strongest of a row of outcomes, if there is any. -/
def mergeAll? : List Status → Option Status
  | [] => none
  | s :: ss => some (ss.foldl merge s)

theorem rank_merge (a b : Status) : (merge a b).rank = max a.rank b.rank := by
  cases a <;> cases b <;> rfl

theorem merge_assoc (a b c : Status) : merge (merge a b) c = merge a (merge b c) := by
  cases a <;> cases b <;> cases c <;> rfl

@[simp] theorem noFrame_merge (a : Status) : merge noFrame a = a := by
  cases a <;> rfl

end Status
end RefFrame
