import RefFrame.Record.Basic

/-!
# Batches of records

A document holds the trees of a batch: an array holds one for each element, and an object is a
batch of one. Records are normalized one by one, in their order. A batch is reported as a row for
each record and as counts of the outcomes.
-/

namespace RefFrame

/-- What is reported of one record, apart from its tree. -/
structure Summary where
  id : Option String
  status : Status
  errors : List String
  deriving DecidableEq, Repr

def Record.summary (r : Record) : Summary :=
  ⟨r.id?, r.status, r.messages⟩

/-- How many records came out how. -/
structure Counts where
  total : Nat
  success : Nat
  error : Nat
  noFrame : Nat
  deriving DecidableEq, Repr

namespace Counts

/-- The counts of a row of outcomes. -/
def ofStatuses (ss : List Status) : Counts :=
  ⟨ss.length, ss.count .success, ss.count .error, ss.count .noFrame⟩

def hasErrors (c : Counts) : Bool :=
  0 < c.error

end Counts

namespace Batch

/-- Why a document holds no batch. -/
inductive Fault
  | notJson (refusal : String)
  | notRecords (found : String)
  deriving DecidableEq, Repr

def Fault.message : Fault → String
  | notJson refusal => "parse records: " ++ refusal
  | notRecords found => "expected a JSON array or object of records, found " ++ found

/-- The trees of a batch. The elements of an array may be any values. -/
def ofJson : Json → Except Fault (List Json)
  | .arr trees => .ok trees
  | .obj ms => .ok [.obj ms]
  | other => .error (.notRecords other.kindName)

def ofText [JsonLibrary] (text : String) : Except Fault (List Json) :=
  match Json.read? text with
  | some document => ofJson document
  | none => .error (.notJson (JsonLibrary.refusal text))

/-- The records of a batch when they have been normalized; nothing if one of them panics. -/
def normalize? [JsonLibrary] [ZoneLibrary] (passes : Passes) (trees : List Json) :
    Option (List Record) :=
  trees.mapM fun tree => (Record.fresh tree).normalize? passes

def counts (rs : List Record) : Counts :=
  .ofStatuses (rs.map Record.status)

/-- The label of a record: its identifier, or its place in the batch. -/
def label (index : Nat) (r : Record) : String :=
  r.id?.getD ("#" ++ toString index)

def rows (rs : List Record) : List (String × Record) :=
  rs.zipIdx.map fun (r, i) => (label i r, r)

end Batch
end RefFrame
