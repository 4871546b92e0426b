import RefFrame.Proofs.Json.Differs

/-!
# Trees with finite numbers

JSON can write no other numbers than finite ones, so the trees of documents hold no others
(`Json.FiniteNumbers`), and neither do their parts.
-/

namespace RefFrame
namespace Json

mutual

/-- Every number in the tree is finite. -/
def FiniteNumbers : Json → Prop
  | num n => n.toFloat.isFinite = true
  | arr es => FiniteNumbersAll es
  | obj ms => FiniteNumbersMembers ms
  | _ => True

/-- `FiniteNumbers` of every element. -/
def FiniteNumbersAll : List Json → Prop
  | [] => True
  | e :: es => FiniteNumbers e ∧ FiniteNumbersAll es

/-- `FiniteNumbers` of every member's value. -/
def FiniteNumbersMembers : List (String × Json) → Prop
  | [] => True
  | (_, e) :: ms => FiniteNumbers e ∧ FiniteNumbersMembers ms

end

variable {es : List Json} {ms : Members} {k : String} {e v : Json}

theorem finiteNumbersAll_iff : FiniteNumbersAll es ↔ ∀ e ∈ es, FiniteNumbers e := by
  induction es with
  | nil =>
      simp [FiniteNumbersAll]
  | cons e es ih =>
      simp [FiniteNumbersAll, ih]

theorem finiteNumbersMembers_iff : FiniteNumbersMembers ms ↔ ∀ m ∈ ms, FiniteNumbers m.2 := by
  induction ms with
  | nil =>
      simp [FiniteNumbersMembers]
  | cons m ms ih =>
      simp [FiniteNumbersMembers, ih]

theorem FiniteNumbers.of_mem (h : (arr es).FiniteNumbers) (mem : e ∈ es) : e.FiniteNumbers :=
  finiteNumbersAll_iff.1 h e mem

theorem FiniteNumbers.of_get? (h : (obj ms).FiniteNumbers) (found : Members.get? ms k = some v) :
    v.FiniteNumbers :=
  finiteNumbersMembers_iff.1 h (k, v) (Members.mem_of_get? found)

theorem FiniteNumbers.of_present? (h : (obj ms).FiniteNumbers)
    (found : (obj ms).present? k = some v) : v.FiniteNumbers :=
  h.of_get? (present?_eq_some.1 found).1

end Json
end RefFrame
