/-!
# JSON trees

The tree of a JSON document. The order of an object's members is kept, and whole numbers are kept
apart from floats: `3` and `3.0` are different trees. Objects read from text or built by `insert`
hold each key once (`Json.UniqueKeys`).
-/

namespace RefFrame

/-- A JSON number: a whole number of at most 64 bits, or a float. -/
inductive Number
  | int (n : Int)
  | float (x : Float)
  deriving DecidableEq, Repr

namespace Number

/-- Whole numbers are kept exactly when they fit 64 bits, with or without sign. -/
def fitsWord (n : Int) : Bool :=
  -9_223_372_036_854_775_808 ≤ n && n < UInt64.size

def toFloat : Number → Float
  | int n => Float.ofInt n
  | float x => x

end Number

/-- A JSON document. -/
inductive Json
  | null
  | bool (b : Bool)
  | num (n : Number)
  | str (s : String)
  | arr (elements : List Json)
  | obj (members : List (String × Json))
  deriving Repr

abbrev Members := List (String × Json)

namespace Members

def get? (ms : Members) (k : String) : Option Json :=
  ms.lookup k

/-- Gives a key a value: in its place when the key is there, else at the end. -/
def insert : Members → String → Json → Members
  | [], k, v => [(k, v)]
  | (k', v') :: ms, k, v => if k' = k then (k, v) :: ms else (k', v') :: insert ms k v

def keys (ms : Members) : List String :=
  ms.map Prod.fst

/-- An inserted value is found under its key, and under no other. -/
theorem get?_insert (ms : Members) (k k' : String) (v : Json) :
    (ms.insert k v).get? k' = if k' = k then some v else ms.get? k' := by
  induction ms with
  | nil =>
    by_cases h : k' = k
    · subst h
      simp [insert, get?]
    · simp [insert, get?, List.lookup_cons, h, beq_false_of_ne h]
  | cons m rest ih =>
    obtain ⟨k₀, v₀⟩ := m
    by_cases hk : k₀ = k
    · subst hk
      by_cases h : k' = k₀
      · subst h
        simp [insert, get?]
      · simp [insert, get?, List.lookup_cons, h, beq_false_of_ne h]
    · by_cases h : k' = k₀
      · subst h
        simp [insert, get?, hk]
      · simpa [insert, get?, hk, List.lookup_cons, beq_false_of_ne h] using ih

/-- Inserting keeps the order of the keys; a new key comes last. -/
theorem keys_insert (ms : Members) (k : String) (v : Json) :
    (ms.insert k v).keys = if k ∈ ms.keys then ms.keys else ms.keys ++ [k] := by
  induction ms with
  | nil => rfl
  | cons m rest ih =>
    obtain ⟨k₀, v₀⟩ := m
    by_cases hk : k₀ = k
    · subst hk
      simp [insert, keys]
    · have hk' : ¬ k = k₀ := fun h => hk h.symm
      by_cases hm : k ∈ keys rest
      · simp_all [insert, keys]
      · simp_all [insert, keys]

end Members

namespace Json

def ofInt (n : Int) : Json := num (.int n)

def ofNat (n : Nat) : Json := num (.int n)

/-- A float; the values that JSON cannot write become `null`. -/
def ofFloat (x : Float) : Json :=
  if x.isFinite then num (.float x) else null

/-- The member of an object with a key; nothing on other trees. -/
def member? : Json → String → Option Json
  | obj ms, k => Members.get? ms k
  | _, _ => none

/-- The element of an array at an index; nothing on other trees. -/
def element? : Json → Nat → Option Json
  | arr es, i => es[i]?
  | _, _ => none

def text? : Json → Option String
  | str s => some s
  | _ => none

def bool? : Json → Option Bool
  | bool b => some b
  | _ => none

def number? : Json → Option Float
  | num n => some n.toFloat
  | _ => none

/-- Whether the tree is `null`. -/
def isNull : Json → Bool
  | null => true
  | _ => false

def kindName : Json → String
  | null => "null"
  | bool _ => "boolean"
  | num _ => "number"
  | str _ => "string"
  | arr _ => "array"
  | obj _ => "object"

/-- A member that is there and is not `null`. -/
def present? (v : Json) (k : String) : Option Json :=
  match v.member? k with
  | some null => none
  | found => found

mutual

/-- Every object in the tree holds each of its keys once. -/
def UniqueKeys : Json → Prop
  | arr es => UniqueKeysAll es
  | obj ms => (Members.keys ms).Nodup ∧ UniqueKeysMembers ms
  | _ => True

/-- `UniqueKeys` of every element. -/
def UniqueKeysAll : List Json → Prop
  | [] => True
  | e :: es => UniqueKeys e ∧ UniqueKeysAll es

/-- `UniqueKeys` of every member's value. -/
def UniqueKeysMembers : List (String × Json) → Prop
  | [] => True
  | (_, e) :: ms => UniqueKeys e ∧ UniqueKeysMembers ms

end

end Json
end RefFrame
