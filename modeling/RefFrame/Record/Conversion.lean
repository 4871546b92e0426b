import RefFrame.PropertyPath.Resolve
import RefFrame.Record.Issue

/-!
# Converting the values of an entry

Units and dates are converted alike: for each name of an entry, the values that it addresses are
judged one after the other and each is replaced, passed over as missing, or refused. A `Conversion`
holds what differs: the judgement, whether a refusal ends the entry, and how the entry reads
afterwards.

Each name is resolved in the data as the names before it left them.
-/

namespace RefFrame

/-- What is to become of a value. -/
inductive Verdict
  | replace (v : Json)
  | missing
  | refuse (issue : Issue)

/-- A way of converting values. -/
structure Conversion where
  pass : Pass
  /-- The judgement on a value, given the name that addresses it. -/
  judge : String → Json → Verdict
  /-- After a refusal the rest of the entry is left as it is. -/
  stopsAtRefusal : Bool
  /-- What the entry says once its values are converted. -/
  relabel : Relabel

/-- The conversion of an entry while it is going on. -/
structure Progress where
  data : Json
  /-- The issues so far, in the order in which they arose. -/
  issues : List Issue
  /-- Some value has been replaced. -/
  converted : Bool
  /-- Some value has been refused. -/
  refused : Bool

namespace Progress

def start (data : Json) : Progress :=
  ⟨data, [], false, false⟩

def report (p : Progress) (i : Issue) : Progress :=
  { p with issues := p.issues ++ [i] }

def write (p : Progress) (l : Location) (v : Json) : Progress :=
  { p with data := (p.data.replace? l v).getD p.data, converted := true }

def refuse (p : Progress) (i : Issue) : Progress :=
  { p.report i with refused := true }

def carryOut (c : Conversion) (name : String) (p : Progress) (m : Match) : Progress :=
  match c.judge name m.value with
  | .replace v => p.write m.location v
  | .missing => p.report (.missingProperty c.pass name)
  | .refuse i => p.refuse i

/-- Whether the rest of the entry is to be left as it is. -/
def isOver (c : Conversion) (p : Progress) : Bool :=
  c.stopsAtRefusal && p.refused

def convertMatch (c : Conversion) (name : String) (p : Progress) (m : Match) : Progress :=
  if p.isOver c then p else p.carryOut c name m

def convertName (c : Conversion) (p : Progress) (name : String) : Progress :=
  if p.isOver c then p
  else
    -- The matches are those of this moment: what is written for one of them does not change them.
    match p.data.matchesOf name with
    | [] => p.report (.missingProperty c.pass name)
    | ms => ms.foldl (convertMatch c name) p

def convertNames (c : Conversion) (p : Progress) (names : List String) : Progress :=
  names.foldl (convertName c) p

/-- An entry is relabelled when some value was replaced and none was refused. -/
def relabel? (c : Conversion) (p : Progress) : Option Relabel :=
  if p.converted && !p.refused then some c.relabel else none

end Progress
end RefFrame
