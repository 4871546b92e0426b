import RefFrame.Json.Basic

/-!
# Locations inside a tree

A location is a list of steps from the root: into a member by its key, or into an element by its
index. `get?` reads a location and `replace?` writes it; both fail exactly when a step leads
nowhere.

Two locations where neither begins with the other are `Apart`: writing one leaves the other alone.
-/

namespace RefFrame

/-- One step down a tree. -/
inductive Step
  | key (k : String)
  | index (i : Nat)
  deriving DecidableEq, Repr

/-- The text of a step: `.key` or `[index]`. -/
def Step.text : Step → String
  | key k => "." ++ k
  | index i => "[" ++ toString i ++ "]"

abbrev Location := List Step

namespace Location

def text (l : Location) : String :=
  String.join (l.map Step.text)

/-- One location leads to or below the other. -/
def Related (l₁ l₂ : Location) : Prop :=
  l₁ <+: l₂ ∨ l₂ <+: l₁

/-- Neither location lies on the way to the other. -/
def Apart (l₁ l₂ : Location) : Prop :=
  ¬ Related l₁ l₂

instance (l₁ l₂ : Location) : Decidable (Related l₁ l₂) :=
  inferInstanceAs (Decidable (_ ∨ _))

instance (l₁ l₂ : Location) : Decidable (Apart l₁ l₂) :=
  inferInstanceAs (Decidable (¬ _))

end Location

namespace Json

def child? (t : Json) : Step → Option Json
  | .key k => t.member? k
  | .index i => t.element? i

/-- Puts another tree in the place of a child that is there. -/
def setChild (t : Json) (s : Step) (v : Json) : Json :=
  match t, s with
  | obj ms, .key k => obj (Members.insert ms k v)
  | arr es, .index i => arr (es.set i v)
  | t, _ => t

def get? (t : Json) : Location → Option Json
  | [] => some t
  | s :: l => (t.child? s).bind (get? · l)

/-- The tree with the part at a location replaced; fails when there is no such location. -/
def replace? (t : Json) : Location → Json → Option Json
  | [], v => some v
  | s :: l, v => do
    let c ← t.child? s
    let c' ← replace? c l v
    some (t.setChild s c')

@[simp] theorem get?_nil (t : Json) : t.get? [] = some t := rfl

@[simp] theorem replace?_nil (t v : Json) : t.replace? [] v = some v := rfl

theorem get?_cons (t : Json) (s : Step) (l : Location) :
    t.get? (s :: l) = (t.child? s).bind fun c => c.get? l := rfl

theorem replace?_cons (t : Json) (s : Step) (l : Location) (v : Json) :
    t.replace? (s :: l) v = (t.child? s).bind fun c =>
      (c.replace? l v).bind fun c' => some (t.setChild s c') := rfl

end Json
end RefFrame
