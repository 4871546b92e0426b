import RefFrame.Json.Reader
import RefFrame.Record.Outcome

/-!
# Records

A record is a tree with what has been said about it: messages, and the strongest outcome so far.
Passes add to both and never take back; the outcome is an error as soon as there is a message.
-/

namespace RefFrame

/-- Which passes to run. -/
structure Passes where
  units : Bool
  dates : Bool
  deriving DecidableEq, Repr

/-- A tree with its messages and its outcome. -/
structure Record where
  tree : Json
  messages : List String
  status : Status

namespace Record

/-- Why a value cannot be taken for a record. -/
inductive Fault
  | notJson (refusal : String)
  | notObject (found : String)
  deriving DecidableEq, Repr

def Fault.message : Fault → String
  | notJson refusal => "json error: " ++ refusal
  | notObject found => "record must be a JSON object, found " ++ found

def fresh (tree : Json) : Record :=
  ⟨tree, [], .noFrame⟩

def ofJson (tree : Json) : Except Fault Record :=
  match tree with
  | .obj _ => .ok (fresh tree)
  | other => .error (.notObject other.kindName)

def ofText [JsonLibrary] (text : String) : Except Fault Record :=
  match Json.read? text with
  | some tree => ofJson tree
  | none => .error (.notJson (JsonLibrary.refusal text))

/-- Adds a message, which makes the outcome an error. -/
def addError (r : Record) (message : String) : Record :=
  { r with messages := r.messages ++ [message], status := r.status.merge .error }

def markProcessed (r : Record) : Record :=
  { r with status := r.status.merge .success }

def absorb (r : Record) (o : Outcome) : Record where
  tree := o.tree
  messages := r.messages ++ o.issues.map Issue.message
  status := r.status.merge o.status

section

variable [JsonLibrary] [ZoneLibrary]

/-- What a pass makes of a record. -/
def run (r : Record) (p : Pass) : Record :=
  r.absorb (p.run r.tree)

def normalize (r : Record) (passes : Passes) : Record :=
  let r := if passes.units then r.run .unit else r
  if passes.dates then r.run .dateTime else r

/-- What a pass makes of a record, but nothing if it panics. -/
def run? (r : Record) (p : Pass) : Option Record :=
  if (p.run r.tree).panics then none else some (r.run p)

/-- What normalizing makes of a record, but nothing if a pass panics. -/
def normalize? (r : Record) (passes : Passes) : Option Record :=
  (if passes.units then r.run? .unit else some r).bind fun r =>
    if passes.dates then r.run? .dateTime else some r

end

/-- The text of the member `id`. -/
def id? (r : Record) : Option String :=
  (r.tree.member? "id").bind Json.text?

/-- Relabels an entry; the flag says whether there is one to relabel. -/
def relabelEntry (r : Record) (index : Nat) (w : Relabel) : Record × Bool :=
  match r.tree.relabelEntry? index w with
  | some tree => ({ r with tree }, true)
  | none => (r, false)

/-- Replaces the data block; the flag says whether there is one. -/
def replaceData (r : Record) (data : Json) : Record × Bool :=
  match r.tree.replaceData? data with
  | some tree => ({ r with tree }, true)
  | none => (r, false)

end Record
end RefFrame
