import RefFrame.Record.Conversion
import RefFrame.Timestamp

/-!
# Converting dates

Dates and points in time are brought to their canonical text. Every value of an entry is tried,
whatever becomes of the others, but one refusal is enough for the entry to keep its reference.
-/

namespace RefFrame

/-- The issue that a fault in a text under a frame comes to. -/
def TimeFrame.issue (f : TimeFrame) (name text : String) : DateFault → Issue
  | .pattern fault => .invalidFormat f.format fault
  | .range fault => .outOfRange text name fault
  | .shape _ _ => .mismatch text name f.format
  | .unknownZone id => .unknownZone id name
  | .parts fault => .unreadable text name (DateFault.parts fault).message
  | .skipped localTime => .unreadable text name (DateFault.skipped localTime).message

namespace Conversion

def ofTime [ZoneLibrary] (f : TimeFrame) : Conversion where
  pass := .dateTime
  judge name v :=
    match v with
    | .null => .missing
    | .str text =>
      match f.convert text with
      | .ok text' => .replace (.str text')
      | .error fault => .refuse (f.issue name text fault)
    | other => .refuse (.mismatch other.compact name f.format)
  stopsAtRefusal := false
  relabel := ⟨(TimeFrame.canonical f.kind).reference, none⟩

def ofTimeReference [JsonLibrary] [ZoneLibrary] (reference : Json) : Except Issue Conversion :=
  match TimeFrame.ofReference reference with
  | .ok f => .ok (ofTime f)
  | .error fault => .error (.invalidReference .dateTime fault)

end Conversion
end RefFrame
