import RefFrame.Record.DatePass
import RefFrame.Record.Status
import RefFrame.Record.UnitPass

/-!
# Passes over a record

A pass goes through the entries of its kind, converts the values they address and relabels the
entries whose values have all been converted. What it does is an `Outcome`, a function of the tree
alone: the new tree, the issues, and whether there was anything to act on. A pass with an issue that
panics has no outcome for anyone to see.
-/

namespace RefFrame

/-- What a pass makes of a tree. -/
structure Outcome where
  tree : Json
  issues : List Issue
  /-- The pass found something to act on. -/
  acted : Bool

def Outcome.status (o : Outcome) : Status :=
  if o.issues ≠ [] then .error else if o.acted then .success else .noFrame

def Outcome.panics (o : Outcome) : Bool :=
  o.issues.any Issue.panics

namespace Pass

variable [JsonLibrary] [ZoneLibrary]

def conversion : Pass → Json → Except Issue Conversion
  | unit => Conversion.ofUnitReference
  | dateTime => Conversion.ofTimeReference

/-- The names of an entry and the conversion it asks for. The first fault decides: names, then the
reference. -/
def plan (p : Pass) (e : MetaEntry) : Except Issue (List String × Conversion) := do
  let names ← e.names.mapError (Issue.entry p)
  let reference ← e.reference.mapError (Issue.entry p)
  let c ← p.conversion reference
  return (names, c)

/-- A record while its entries are gone through: the data, the issues, and the relabelled entries by
their indices. -/
structure Walk where
  data : Json
  issues : List Issue
  relabels : List (Nat × Relabel)

def convertEntry (p : Pass) (w : Walk) (e : MetaEntry) : Walk :=
  match p.plan e with
  | .error i => { w with issues := w.issues ++ [i] }
  | .ok (names, c) =>
    let done := (Progress.start w.data).convertNames c names
    { data := done.data
      issues := w.issues ++ done.issues
      relabels := w.relabels ++ ((done.relabel? c).map fun r => (e.index, r)).toList }

/-- Deals with the entries of the pass's kind, in their order. -/
def convertEntries (p : Pass) (es : List MetaEntry) (data : Json) : Walk :=
  (es.filter fun e => e.kind = p.entryKind).foldl (convertEntry p) ⟨data, [], []⟩

/-- Puts data and relabelled entries back into their record. -/
def Walk.restore (w : Walk) (record : Json) : Json :=
  w.relabels.foldl (fun t (i, r) => (t.relabelEntry? i r).getD t)
    ((record.replaceData? w.data).getD record)

def convert (p : Pass) (record : Json) (es : List MetaEntry) (data : Json) : Outcome :=
  let w := p.convertEntries es data
  ⟨w.restore record, w.issues, true⟩

/-- Runs the pass. Without entries there is nothing to act on. Without data the pass for dates
reports an issue, with or without entries, and the pass for units has nothing to do. -/
def run (p : Pass) (record : Json) : Outcome :=
  match p, record.metaEntries?, record.dataBlock? with
  -- The two passes look at data and entries in opposite orders.
  | dateTime, _, none => ⟨record, [.missingData .dateTime], false⟩
  | unit, some _, none => ⟨record, [], true⟩
  | _, none, _ => ⟨record, [], false⟩
  | p, some es, some data => p.convert record es data

end Pass
end RefFrame
