import RefFrame.Json.Printer
import RefFrame.Json.Reader

/-!
# References

A reference says how the values of an entry are to be read: a unit of measure, or a date format.
It arrives as a JSON object, or as a string that holds the text of one; `Reference.members` takes
both to the same members, so nothing after it can tell them apart. This module also reads the
`type` code and single fields, and lists all that can be wrong with a reference.
-/

namespace RefFrame
namespace Reference

/-- What a reference describes, by its `type` code. -/
inductive Kind
  /-- A unit with a scale and an offset. -/
  | scaleOffset
  /-- A unit with the four numbers of a fraction of linear terms. -/
  | fraction
  /-- A measurement whose values are in its base unit already. -/
  | measurement
  /-- Dates. -/
  | date
  /-- Dates with a time of day. -/
  | dateTime
  deriving DecidableEq, Repr

namespace Kind

def code : Kind → String
  | scaleOffset => "USO"
  | fraction => "UAD"
  | measurement => "UM"
  | date => "DAT"
  | dateTime => "DTM"

def all : List Kind := [scaleOffset, fraction, measurement, date, dateTime]

def ofCode? (c : String) : Option Kind :=
  all.find? fun k => k.code == c

def isUnit : Kind → Bool
  | scaleOffset | fraction | measurement => true
  | date | dateTime => false

end Kind

/-- The two families of references. -/
inductive Family
  | unit
  | dateTime
  deriving DecidableEq, Repr

def Family.name : Family → String
  | unit => "unit"
  | dateTime => "date/time"

/-- What is wrong with the value of a field. -/
inductive Reason
  | notText
  | foundNotText (found : String)
  | foundNotNumber (found : String)
  | notObject
  | blankFormat
  | notLinear
  | zeroDivisor
  | degenerate
  deriving DecidableEq, Repr

def Reason.message : Reason → String
  | notText => "expected a string"
  | foundNotText found => "expected a string, found " ++ found
  | foundNotNumber found => "expected a number, found " ++ found
  | notObject => "expected an object"
  | blankFormat => "format must not be empty"
  | notLinear => "non-linear conversions (d != 0) are not supported"
  | zeroDivisor => "c must not be zero"
  | degenerate => "conversion to SI is not a finite, non-degenerate mapping"

/-- Why a value is no usable reference. -/
inductive Fault
  /-- The string does not hold JSON. -/
  | invalidJson (refusal : String)
  | notObject (found : String)
  | missingField (field : String)
  | invalidField (field : String) (reason : Reason)
  | unknownKind (code : String)
  | otherFamily (expected : Family) (found : Kind)
  deriving DecidableEq, Repr

def Fault.message : Fault → String
  | invalidJson refusal => "invalid JSON: " ++ refusal
  | notObject found => "expected a JSON object, found " ++ found
  | missingField field => "missing field '" ++ field ++ "'"
  | invalidField field reason => "invalid field '" ++ field ++ "': " ++ reason.message
  | unknownKind code => "unknown reference type '" ++ code ++ "'"
  | otherFamily expected found =>
    "expected a " ++ expected.name ++ " reference, found type '" ++ found.code ++ "'"

def members [JsonLibrary] : Json → Except Fault Members
  | .obj ms => .ok ms
  | .str text =>
    match Json.read? text with
    | some (.obj ms) => .ok ms
    | some other => .error (.notObject other.kindName)
    | none => .error (.invalidJson (JsonLibrary.refusal text))
  | other => .error (.notObject other.kindName)

/-- The kind of a reference, from its field `type`. -/
def kind (ms : Members) : Except Fault Kind :=
  match ms.get? "type" with
  | none => .error (.missingField "type")
  | some (.str code) =>
    match Kind.ofCode? code with
    | some k => .ok k
    | none => .error (.unknownKind code)
  | some _ => .error (.invalidField "type" .notText)

/-- A number that has to be there; `null` counts as absent. -/
def number (ms : Members) (field : String) : Except Fault Float :=
  match ms.get? field with
  | none | some .null => .error (.missingField field)
  | some (.num n) =>
    if n.toFloat.isFinite then .ok n.toFloat
    else .error (.invalidField field (.foundNotNumber "number"))
  | some other => .error (.invalidField field (.foundNotNumber other.kindName))

/-- A text that may be absent; `null` counts as absent. -/
def text? (ms : Members) (field : String) : Except Fault (Option String) :=
  match ms.get? field with
  | none | some .null => .ok none
  | some (.str s) => .ok (some s)
  | some other => .error (.invalidField field (.foundNotText other.kindName))

end Reference
end RefFrame
