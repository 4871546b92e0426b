import RefFrame.Reference.Basic
import RefFrame.Text.Blank

/-!
# Date formats as frames of reference

A `TimeFrame` says how dates are written: whether a time of day belongs to them, the pattern, and
the zone of times that name none. `TimeFrame.ofReference` reads a reference, `TimeFrame.reference`
writes one, and `TimeFrame.canonical` is the frame that every value is brought to.
-/

namespace RefFrame

/-- Whether values are dates alone or points in time. -/
inductive TimeKind
  | date
  | dateTime
  deriving DecidableEq, Repr

def TimeKind.referenceKind : TimeKind → Reference.Kind
  | date => .date
  | dateTime => .dateTime

/-- How dates or points in time are written. -/
structure TimeFrame where
  kind : TimeKind
  format : String
  zone : Option String
  deriving DecidableEq, Repr

namespace TimeFrame

open Reference

/-- The way every value is written in the end: the calendar date, or the instant in UTC with
milliseconds. -/
def canonical : TimeKind → TimeFrame
  | .date => ⟨.date, "yyyy-MM-dd", none⟩
  | .dateTime => ⟨.dateTime, "yyyy-MM-ddTHH:mm:ss.SSSZ", some "UTC"⟩

/-- The kind of values that a kind of reference describes. -/
def timeKind : Kind → Except Fault TimeKind
  | .date => .ok .date
  | .dateTime => .ok .dateTime
  | k => .error (.otherFamily .dateTime k)

/-- The pattern of a reference, which has to hold more than blanks. -/
def formatOf (ms : Members) : Except Fault String := do
  match ← text? ms "format" with
  | none => throw (.missingField "format")
  | some format =>
    if Text.trimmed format.toList = [] then throw (.invalidField "format" .blankFormat)
    else return format

/-- The zone of a reference without blanks around it; a blank one is none. -/
def zoneOf (ms : Members) : Except Fault (Option String) := do
  match ← text? ms "timeZone" with
  | none => return none
  | some zone =>
    let zone := Text.trim zone
    return if zone = "" then none else some zone

/-- The frame that a reference describes. The pattern is not looked into here: a bad one shows at
each value. -/
def ofReference [JsonLibrary] (reference : Json) : Except Fault TimeFrame := do
  let ms ← members reference
  let kind ← timeKind (← Reference.kind ms)
  let format ← formatOf ms
  let zone ← zoneOf ms
  return { kind, format, zone }

def object (f : TimeFrame) : Json :=
  let zone := match f.zone with
    | some z => [("timeZone", Json.str z)]
    | none => []
  .obj ([("format", .str f.format)] ++ zone ++ [("type", .str f.kind.referenceKind.code)])

def reference (f : TimeFrame) : String :=
  f.object.compact

end TimeFrame
end RefFrame
