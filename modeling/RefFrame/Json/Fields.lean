import RefFrame.Json.Basic

/-!
# Fields of written structures

A structure may be written as an object, where its fields go by name and unknown members count for
nothing, or as an array of its fields in their order, which may end early but not go on.
-/

namespace RefFrame

/-- The fields of a written structure. -/
inductive Fields
  | named (ms : Members)
  | listed (values : List Json)

namespace Fields

/-- The fields of a structure that has `size` of them. -/
def of? (size : Nat) : Json → Option Fields
  | .obj ms => some (named ms)
  | .arr values => if values.length ≤ size then some (listed values) else none
  | _ => none

def get? (f : Fields) (place : Nat) (name : String) : Option Json :=
  match f with
  | named ms => Members.get? ms name
  | listed values => values[place]?

variable {β : Type}

def required (f : Fields) (place : Nat) (name : String) (read : Json → Option β) : Option β :=
  (f.get? place name).bind read

/-- Reads a field that may be left out. -/
def orElse (f : Fields) (place : Nat) (name : String) (default : β) (read : Json → Option β) :
    Option β :=
  match f.get? place name with
  | none => some default
  | some v => read v

/-- Reads a field that may be left out of an object, but not of an array. -/
def orElseNamed (f : Fields) (place : Nat) (name : String) (default : β)
    (read : Json → Option β) : Option β :=
  match f with
  | named _ => f.orElse place name default read
  | listed _ => f.required place name read

end Fields

namespace Json

/-- A count of at most 64 bits. -/
def count? : Json → Option Nat
  | num (.int n) => if 0 ≤ n ∧ n < UInt64.size then some n.toNat else none
  | _ => none

def list? {β : Type} (read : Json → Option β) : Json → Option (List β)
  | arr vs => vs.mapM read
  | _ => none

/-- A value that may be `null`. -/
def nullable? {β : Type} (read : Json → Option β) : Json → Option (Option β)
  | null => some none
  | v => (read v).map some

end Json
end RefFrame
