import RefFrame.Json.Exact
import RefFrame.Proofs.Json.Reading
import RefFrame.Proofs.Reference.Base

/-!
# Reading base references again

Normalizing leaves the reference of the base unit in a record, so the next run reads it. It is read as
that base unit exactly if the measurement leads to the base symbol by its ancestry
(`UnitFrame.rereads_iff`). A symbol that only the first reference names is not written, and is lost.
-/

namespace RefFrame
namespace UnitFrame

open Json Reference

variable {u : UnitFrame} {reference : Json}

/-- A unit is the base unit of another one: values are in it already, and it has the same symbol, the
same measurement and the same base reference. -/
structure IsBaseOf (b u : UnitFrame) : Prop where
  scale : b.toBase.scale = 1.0
  offset : (b.toBase.offset == 0.0) = true
  baseSymbol : b.baseSymbol = u.baseSymbol
  measurement : b.measurement = u.measurement
  baseReference : b.baseReference = u.baseReference

/-- The base reference of a unit is read as the base unit. -/
def Rereads [JsonLibrary] (u : UnitFrame) : Prop :=
  ∃ b, ofReference (.str u.baseReference) = .ok b ∧ b.IsBaseOf u

theorem isBaseOf_base (u : UnitFrame) : u.base.IsBaseOf u := by
  have zero : (toItself.offset == 0.0) = true := by decide
  exact ⟨rfl, zero, rfl, rfl, baseReference_base u⟩

theorem rereads_of_derived [JsonLibrary] (h : ofReference reference = .ok u)
    (readable : Json.read? u.baseReference = some u.baseObject)
    (derived : derivedSymbol? u.measurement = some u.baseSymbol) : u.Rereads := by
  refine ⟨u.base, ?_, isBaseOf_base u⟩
  rw [ofReference_baseReference_eq h readable, derived]
  rfl

/-- The base reference is read as the base unit exactly if the measurement leads to the base symbol.
So it is for every reference that does not name a base symbol of its own. -/
theorem rereads_iff [JsonLibrary] (h : ofReference reference = .ok u)
    (readable : Json.read? u.baseReference = some u.baseObject) :
    (u.Rereads ↔ derivedSymbol? u.measurement = some u.baseSymbol) ∧
      ((∀ ms, members reference = .ok ms → text? ms "baseSymbol" = .ok none) → u.Rereads) := by
  constructor
  · constructor
    · intro rereads
      rcases rereads with ⟨b, read, same⟩
      rw [ofReference_baseReference_eq h readable] at read
      cases derived : derivedSymbol? u.measurement with
      | none =>
          simp [derived] at read
      | some symbol =>
          -- What is read has the derived symbol, and it is the old one.
          simp only [derived, Except.ok.injEq] at read
          have found : symbol = b.baseSymbol := by rw [← read]
          rw [found, same.baseSymbol]
    · intro derived
      exact rereads_of_derived h readable derived
  · intro unnamed
    exact rereads_of_derived h readable (derivedSymbol?_of_unnamed h unnamed)

/-- Lengths that are in metres already. -/
def length : Json :=
  .obj [("type", .str "UM"), ("ancestry", .str "L.Length")]
open BuiltIn in

theorem rereads_length :
    ∃ u, ofReference length = .ok u ∧ Json.read? u.baseReference = some u.baseObject ∧
      (u.Rereads ↔ derivedSymbol? u.measurement = some u.baseSymbol) ∧ u.Rereads := by
  have read : ofReference length = .ok ⟨none, .identity, "m", some length⟩ := rfl
  have readable : Json.read? (baseReference ⟨none, .identity, "m", some length⟩) =
      some (baseObject ⟨none, .identity, "m", some length⟩) := by
    have tokens : tokens? (baseReference ⟨none, .identity, "m", some length⟩).toList =
        some (baseObject ⟨none, .identity, "m", some length⟩).tokens := by
      decide +kernel
    exact readWithin?_of_tokens? tokens rfl
  refine ⟨_, read, readable, (rereads_iff read readable).1, (rereads_iff read readable).2 ?_⟩
  intro ms found
  obtain rfl := Except.ok.inj found
  rfl

/-- A unit that names its base symbol and does not say what it measures. -/
def namedMetre : Json :=
  .obj [("type", .str "USO"), ("scale", .num (.float 0.5)), ("baseSymbol", .str "m")]

open BuiltIn in
/-- The metre is named in the first reference and nowhere in the base reference. -/
theorem not_rereads_namedMetre :
    ∃ u, ofReference namedMetre = .ok u ∧ Json.read? u.baseReference = some u.baseObject ∧
      ofReference (.str u.baseReference) = .error (.missingField "baseSymbol") ∧ ¬ u.Rereads := by
  have read : ofReference namedMetre = .ok ⟨none, ⟨0.5, -0.0 * 0.5⟩, "m", none⟩ := rfl
  have readable : Json.read? (baseReference ⟨none, ⟨0.5, -0.0 * 0.5⟩, "m", none⟩) =
      some (baseObject ⟨none, ⟨0.5, -0.0 * 0.5⟩, "m", none⟩) := by
    have tokens : tokens? (baseReference ⟨none, ⟨0.5, -0.0 * 0.5⟩, "m", none⟩).toList =
        some (baseObject ⟨none, ⟨0.5, -0.0 * 0.5⟩, "m", none⟩).tokens := by
      decide +kernel
    exact readWithin?_of_tokens? tokens rfl
  have lost := ofReference_baseReference_eq read readable
  refine ⟨_, read, readable, lost, ?_⟩
  intro rereads
  rcases rereads with ⟨b, again, -⟩
  rw [lost] at again
  cases again

end UnitFrame
end RefFrame
