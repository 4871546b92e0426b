import RefFrame.Json.Location
import RefFrame.Text.Ascii

/-!
# Meta entries

The array `meta` of a record says which properties of its data are given in which frame of
reference. A `MetaEntry` is one element of it, as far as it can be read; its names and its reference
are checked when they are needed. After its values have been converted an entry is relabelled to the
new frame.
-/

namespace RefFrame

/-- What an entry describes. -/
inductive EntryKind
  | unit
  | dateTime
  | other (kind : String)
  deriving DecidableEq, Repr

/-- The kind with a name, which may be written in any case. -/
def EntryKind.ofName (name : String) : EntryKind :=
  if Text.sameLetters name.toList "unit".toList then unit
  else if Text.sameLetters name.toList "datetime".toList then dateTime
  else other name

/-- Why an entry cannot be used. -/
inductive EntryFault
  | namesMissing
  | namesIllegal
  | referenceMissing
  deriving DecidableEq, Repr

def EntryFault.message : EntryFault → String
  | namesMissing => "property names missing"
  | namesIllegal => "property names must be a list of strings"
  | referenceMissing => "persistable reference missing"

/-- An element of the array `meta`. -/
structure MetaEntry where
  index : Nat
  kind : EntryKind
  name : Option String
  namesField : Option Json
  referenceField : Option Json

namespace MetaEntry

def ofJson (index : Nat) (v : Json) : MetaEntry where
  index := index
  kind :=
    match (v.member? "kind").bind Json.text? with
    | some name => .ofName name
    | none => .other ""
  name := (v.member? "name").bind Json.text?
  namesField := v.present? "propertyNames"
  referenceField := v.present? "persistableReference"

/-- The paths of the properties that the entry describes. -/
def names (e : MetaEntry) : Except EntryFault (List String) :=
  match e.namesField with
  | none => .error .namesMissing
  | some (.arr vs) =>
    match vs.mapM Json.text? with
    | some names => .ok names
    | none => .error .namesIllegal
  | some _ => .error .namesIllegal

def reference (e : MetaEntry) : Except EntryFault Json :=
  match e.referenceField with
  | none => .error .referenceMissing
  | some v => .ok v

end MetaEntry

/-- What an entry is to say after a conversion: its reference and, if it changes, its name. -/
structure Relabel where
  reference : String
  name : Option String
  deriving DecidableEq, Repr

/-- Enters the new reference and name: in their places or, where there are none, at the end. -/
def Relabel.apply (w : Relabel) (ms : Members) : Members :=
  let referenced := Members.insert ms "persistableReference" (.str w.reference)
  match w.name with
  | some name => Members.insert referenced "name" (.str name)
  | none => referenced

namespace Json

def metaEntries? (record : Json) : Option (List MetaEntry) :=
  match record.member? "meta" with
  | some (arr vs) => some (vs.zipIdx.map fun (v, i) => MetaEntry.ofJson i v)
  | _ => none

def entryLocation (index : Nat) : Location :=
  [.key "meta", .index index]

/-- The record with an entry relabelled; fails when there is no such entry or it is no object. -/
def relabelEntry? (record : Json) (index : Nat) (w : Relabel) : Option Json :=
  match record.get? (entryLocation index) with
  | some (obj ms) => record.replace? (entryLocation index) (obj (w.apply ms))
  | _ => none

/-- The data block of a record; a `null` one is none. -/
def dataBlock? (record : Json) : Option Json :=
  record.present? "data"

/-- The record with its data block replaced; fails when it has none. -/
def replaceData? (record data : Json) : Option Json :=
  match record.dataBlock? with
  | some _ => record.replace? [.key "data"] data
  | none => none

end Json
end RefFrame
