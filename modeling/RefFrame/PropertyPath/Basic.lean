import RefFrame.Text.Ascii
import RefFrame.Text.Pieces

/-!
# Property paths

A property path names values inside a data block: segments separated by dots, each a key followed
by any number of indices in brackets, as in `Markers[0].MeasuredDepth`. `PropertyPath.parse` reads
a path and `PropertyPath.text` writes one.
-/

namespace RefFrame

/-- One segment of a path: a key, and the indices to follow from its value. -/
structure Segment where
  key : String
  indices : List Nat
  deriving DecidableEq, Repr

/-- A path, which has at least one segment. -/
structure PropertyPath where
  first : Segment
  rest : List Segment
  deriving DecidableEq, Repr

namespace PropertyPath

def segments (p : PropertyPath) : List Segment :=
  p.first :: p.rest

/-- Why a text is no path; the text is part of the answer. -/
inductive Fault
  | empty
  | emptySegment (path : String)
  | malformedIndex (path : String)
  deriving DecidableEq, Repr

def Fault.message : Fault → String
  | empty => "empty property path"
  | emptySegment path => "empty segment in property path '" ++ path ++ "'"
  | malformedIndex path => "malformed array index in property path '" ++ path ++ "'"

/-! ## Writing -/

def indexText (i : Nat) : List Char :=
  '[' :: Text.digitsOf i ++ [']']

def segmentText (s : Segment) : List Char :=
  s.key.toList ++ s.indices.flatMap indexText

/-- The text of a path: its segments with dots between them. -/
def text (p : PropertyPath) : String :=
  String.ofList (['.'].intercalate (p.segments.map segmentText))

/-! ## Reading -/

/-- The greatest index that a path may hold. -/
def greatestIndex : Nat := UInt64.size - 1

/-- Reads an index between its brackets: an optional plus and at least one digit. -/
def index? (cs : List Char) : Option Nat :=
  let digits := match cs with
    | '+' :: ds => ds
    | ds => ds
  if digits ≠ [] ∧ digits.all Char.isDigit ∧ Text.digitsValue digits ≤ greatestIndex then
    some (Text.digitsValue digits)
  else none

/-- Reads indices in brackets, one after the other. `inside` holds the characters since the last
opening bracket, the last one first, and is absent outside of brackets. -/
def indices? : Option (List Char) → List Char → Option (List Nat)
  | none, [] => some []
  | none, c :: cs => if c = '[' then indices? (some []) cs else none
  | some _, [] => none
  | some inside, c :: cs =>
    if c = ']' then
      match index? inside.reverse with
      | some i => (indices? none cs).map (i :: ·)
      | none => none
    else indices? (some (c :: inside)) cs

/-- Reads a segment of a path whose whole text is given for the answer. -/
def segment (path : String) (cs : List Char) : Except Fault Segment :=
  -- A missing key is found before the brackets are looked at.
  let key := cs.takeWhile (· ≠ '[')
  if key = [] then .error (.emptySegment path)
  else
    match indices? none (cs.dropWhile (· ≠ '[')) with
    | some is => .ok ⟨String.ofList key, is⟩
    | none => .error (.malformedIndex path)

/-- Reads a path. The first segment at fault decides the answer. -/
def parse (path : String) : Except Fault PropertyPath :=
  if path.isEmpty then .error .empty
  else do
    let (piece, more) := Text.pieces '.' path.toList
    let first ← segment path piece
    let rest ← more.mapM (segment path)
    return ⟨first, rest⟩

end PropertyPath
end RefFrame
