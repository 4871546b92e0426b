import RefFrame.Json.Token

/-!
# Reading JSON text

A text is cut into tokens, and the tokens drive a small machine: `Reading` says what may come next
and holds the containers that are open. Reading is strict and bounded: the whole text is one
document, and containers are nested at most to a given depth.
-/

namespace RefFrame
namespace Json

/-- All tokens of a text, or nothing if some part of it is no token. -/
def tokens? [JsonLibrary] : List Char → Option (List Token)
  | [] => some []
  | c :: rest =>
    if isBlank c then tokens? rest
    else
      match h : Token.span c rest with
      | none => none
      | some (t, tail) =>
        have : tail.length ≤ rest.length := Token.length_span_le h
        (tokens? tail).map (t :: ·)
termination_by cs => cs.length

/-- A container that is open, with what has been read of it. -/
inductive Frame
  /-- The elements so far, the last one first. -/
  | elements (done : List Json)
  /-- The members so far, and the key of the member being read. -/
  | member (done : Members) (key : String)

/-- What may come next. The frames are the containers around that place, the innermost first. -/
inductive Reading
  /-- A document, an element or the value of a member. -/
  | value (frames : List Frame)
  /-- The first element of an array, or its end. -/
  | firstElement (frames : List Frame)
  /-- The first key of an object, or its end. -/
  | firstKey (frames : List Frame)
  /-- A further key of an object. -/
  | nextKey (members : Members) (frames : List Frame)
  /-- The colon after a key. -/
  | colon (members : Members) (key : String) (frames : List Frame)
  /-- A comma after an element, or the end of the array. -/
  | afterElement (done : List Json) (frames : List Frame)
  /-- A comma after a member, or the end of the object. -/
  | afterMember (members : Members) (frames : List Frame)
  /-- Nothing: the document is complete. -/
  | complete (v : Json)

/-- A tree has been read: it goes into the innermost open container. -/
def Reading.put (v : Json) : List Frame → Reading
  | [] => .complete v
  | .elements done :: frames => .afterElement (v :: done) frames
  | .member done key :: frames => .afterMember (Members.insert done key v) frames

/-- The beginning of a tree; a container opens only above the bottom of the nesting limit. -/
def Reading.begin (limit : Nat) (frames : List Frame) : Token → Option Reading
  | .null => some (put .null frames)
  | .bool b => some (put (.bool b) frames)
  | .num n => some (put (.num n) frames)
  | .str s => some (put (.str (String.ofList s)) frames)
  | .openArray => if frames.length < limit then some (firstElement frames) else none
  | .openObject => if frames.length < limit then some (firstKey frames) else none
  | _ => none

def Reading.step (limit : Nat) : Reading → Token → Option Reading
  | value frames, t => begin limit frames t
  -- A container may end right behind its opening bracket.
  | firstElement frames, .closeArray => some (put (.arr []) frames)
  | firstElement frames, t => begin limit (.elements [] :: frames) t
  | firstKey frames, .closeObject => some (put (.obj []) frames)
  | firstKey frames, .str k => some (colon [] (String.ofList k) frames)
  | nextKey members frames, .str k => some (colon members (String.ofList k) frames)
  | colon members key frames, .colon => some (value (.member members key :: frames))
  -- A comma owes an element, so the next state does not accept the end.
  | afterElement done frames, .comma => some (value (.elements done :: frames))
  | afterElement done frames, .closeArray => some (put (.arr done.reverse) frames)
  | afterMember members frames, .comma => some (nextKey members frames)
  | afterMember members frames, .closeObject => some (put (.obj members) frames)
  | _, _ => none

def Reading.run (limit : Nat) : Reading → List Token → Option Reading
  | r, [] => some r
  | r, t :: ts => (r.step limit t).bind (run limit · ts)

/-- How deep arrays and objects may be nested in a document. -/
def nestingLimit : Nat := 127

/-- The document that a text holds, if it is nested at most `limit` deep. -/
def readWithin? [JsonLibrary] (limit : Nat) (text : String) : Option Json := do
  let ts ← tokens? text.toList
  match ← Reading.run limit (.value []) ts with
  | .complete v => some v
  | _ => none

def read? [JsonLibrary] (text : String) : Option Json :=
  readWithin? nestingLimit text

end Json
end RefFrame
