import RefFrame.Record.MetaEntry
import RefFrame.Reference.Basic
import RefFrame.Timestamp

/-!
# Issues

An issue is one thing that went wrong while a record was normalized. Issues are collected as values
and worded in one place.
-/

namespace RefFrame

/-- The two passes over a record. -/
inductive Pass
  | unit
  | dateTime
  deriving DecidableEq, Repr

namespace Pass

def label : Pass → String
  | unit => "Unit"
  | dateTime => "DateTime"

def entryKind : Pass → EntryKind
  | unit => .unit
  | dateTime => .dateTime

end Pass

/-- One thing that went wrong. -/
inductive Issue
  | missingData (pass : Pass)
  | entry (pass : Pass) (fault : EntryFault)
  | invalidReference (pass : Pass) (fault : Reference.Fault)
  | missingProperty (pass : Pass) (name : String)
  /-- A value that is no number, or whose conversion is not finite. -/
  | illegalValue (name : String)
  | invalidFormat (format : String) (fault : PatternFault)
  | outOfRange (value name : String) (fault : RangeFault)
  /-- A value whose shape is not that of the format. -/
  | mismatch (value name format : String)
  | unreadable (value name reason : String)
  | unknownZone (zone name : String)
  deriving DecidableEq, Repr

namespace Issue

def detail : Issue → String
  | missingData _ => "missing data block"
  | entry _ .namesMissing => "property names missing"
  | entry _ .namesIllegal => "illegal value for property names"
  | entry _ .referenceMissing => "persistable reference missing"
  | invalidReference _ fault => "persistable reference not valid: " ++ fault.message
  | missingProperty _ name => "property " ++ name ++ " missing"
  | illegalValue name => "illegal value for property " ++ name
  | invalidFormat format fault => "invalid formatter '" ++ format ++ "': " ++ fault.message
  | outOfRange value name fault =>
    "invalid datetime value '" ++ value ++ "' for property " ++ name ++ ": " ++ fault.message
  | mismatch value name format =>
    "value '" ++ value ++ "' of property " ++ name ++ " does not match reference format '" ++
      format ++ "'"
  | unreadable value name reason =>
    "error parsing value '" ++ value ++ "' of property " ++ name ++ ": " ++ reason
  | unknownZone zone name => "invalid timezone '" ++ zone ++ "' for property " ++ name

def pass : Issue → Pass
  | missingData p | entry p _ | invalidReference p _ | missingProperty p _ => p
  | illegalValue _ => .unit
  | invalidFormat _ _ | outOfRange _ _ _ | mismatch _ _ _ | unreadable _ _ _
  | unknownZone _ _ => .dateTime

def message (i : Issue) : String :=
  i.pass.label ++ " conversion: " ++ i.detail

/-- The program panics before it can report the issue. -/
def panics : Issue → Bool
  | unknownZone zone _ => (DateFault.unknownZone zone).panics
  | _ => false

end Issue
end RefFrame
