import RefFrame.Proofs.Decimal.Identity
import RefFrame.Proofs.Fallible
import RefFrame.Proofs.Record.Restore
import RefFrame.Proofs.Reference.TimeFrames

/-!
# References that are read back

The references that normalizing writes are references again. A canonical frame is read back from its
text. So is a base unit: it measures what its unit measured, it has the same symbol, and its own base
unit is itself (`UnitFrame.ofReference_baseReference`). That the text of a base reference holds its
tree is a hypothesis there.
-/

namespace RefFrame

open Json Reference

namespace UnitFrame

variable {u : UnitFrame} {reference : Json} {ms : Members} {k : Kind} {m : Json}

/-! ## What it takes to read a unit -/

theorem ofReference_eq_ok [JsonLibrary] :
    ofReference reference = .ok u ↔ ∃ ms, members reference = .ok ms ∧ ∃ k, kind ms = .ok k ∧
      conversion k ms = .ok u.toBase ∧ u.toBase.isRegular = true ∧
        u.measurement = measurementOf k ms ∧ baseSymbolOf ms u.measurement = .ok u.baseSymbol ∧
          text? ms "symbol" = .ok u.symbol := by
  rcases u with ⟨symbol, toBase, baseSymbol, measurement⟩
  simp only [ofReference, bind_ok_iff, guard_ok_iff, pure_ok_iff, UnitFrame.mk.injEq]
  constructor
  · rintro ⟨ms, found, k, code, f, map, regular, b, base, s, symbol', rfl, rfl, rfl, rfl⟩
    exact ⟨ms, found, k, code, map, by simpa using regular, rfl, base, symbol'⟩
  · rintro ⟨ms, found, k, code, map, regular, rfl, base, symbol'⟩
    exact ⟨ms, found, k, code, toBase, map, by simp [regular], baseSymbol, base, symbol, symbol',
      rfl, rfl, rfl, rfl⟩

theorem measurementOf_ne_null (h : measurementOf k ms = some m) : m ≠ .null := by
  cases k with
  | measurement =>
      have same : Json.obj ms = m := by simpa [measurementOf] using h
      rw [← same]
      simp
  | _ =>
      exact (present?_eq_some.1 h).2

/-- The base symbol that the ancestry of what is measured leads to. -/
def derivedSymbol? (measurement : Option Json) : Option String :=
  ((measurement.bind (·.member? "ancestry")).bind Json.text?).bind baseSymbol?

/-- A reference that names no base symbol has the one of what it measures, or none. -/
theorem baseSymbolOf_unnamed (h : text? ms "baseSymbol" = .ok none) (measurement : Option Json) :
    baseSymbolOf ms measurement =
      match derivedSymbol? measurement with
      | some symbol => .ok symbol
      | none => .error (.missingField "baseSymbol") := by
  simp only [baseSymbolOf, h, derivedSymbol?, bind, Except.bind]
  cases measurement.bind (·.member? "ancestry") with
  | none =>
      rfl
  | some v =>
      cases v with
      | str ancestry =>
          cases found : baseSymbol? ancestry <;> simp [Json.text?, found] <;> rfl
      | _ =>
          rfl

/-! ## The base unit -/

/-- The way of a base unit to itself, as its reference is read. -/
def toItself : LinearMap := ⟨1.0, -0.0 * 1.0⟩

/-- The unit that a base reference describes. -/
def base (u : UnitFrame) : UnitFrame :=
  ⟨some u.baseSymbol, toItself, u.baseSymbol, u.measurement⟩

theorem baseReference_base (u : UnitFrame) : u.base.baseReference = u.baseReference := rfl

/-- The members of a base reference. -/
def baseMembers (u : UnitFrame) : Members :=
  (match u.measurement with
    | some m => [("baseMeasurement", m)]
    | none => []) ++
  [("scaleOffset", .obj [("offset", .num (.float 0.0)), ("scale", .num (.float 1.0))]),
    ("symbol", .str u.baseSymbol), ("type", .str Kind.scaleOffset.code)]

theorem baseObject_eq (u : UnitFrame) : u.baseObject = .obj u.baseMembers := by
  cases measured : u.measurement <;> simp [baseObject, baseMembers, measured]

theorem isRegular_toItself : toItself.isRegular = true := by
  decide

theorem apply_toItself {x : Float} (h : x.isFinite) : toItself.apply x = x :=
  Binary64.mul_one_add_negZero h

theorem get?_baseMembers_measurement (u : UnitFrame) :
    u.baseMembers.get? "baseMeasurement" = u.measurement := by
  cases measured : u.measurement <;> simp [baseMembers, measured, Members.get?, List.lookup_cons]

theorem get?_baseMembers_of_ne {key : String} (h : key ≠ "baseMeasurement") :
    u.baseMembers.get? key = Members.get?
      [("scaleOffset", .obj [("offset", .num (.float 0.0)), ("scale", .num (.float 1.0))]),
        ("symbol", .str u.baseSymbol), ("type", .str Kind.scaleOffset.code)] key := by
  cases measured : u.measurement with
  | none =>
      simp [baseMembers, measured]
  | some m =>
      have other : (key == "baseMeasurement") = false := beq_false_of_ne h
      simp [baseMembers, measured, Members.get?, List.lookup_cons, other]

theorem conversion_baseMembers (u : UnitFrame) :
    conversion .scaleOffset u.baseMembers = .ok toItself := by
  have numbers : u.baseMembers.get? "scaleOffset" =
      some (.obj [("offset", .num (.float 0.0)), ("scale", .num (.float 1.0))]) :=
    get?_baseMembers_of_ne (by decide)
  have scale : number [("offset", .num (.float 0.0)), ("scale", .num (.float 1.0))] "scale" =
      .ok 1.0 := rfl
  have offset : number [("offset", .num (.float 0.0)), ("scale", .num (.float 1.0))] "offset" =
      .ok 0.0 := rfl
  simp only [conversion, ofScaleOffset, numbers, scale, offset]
  rfl

theorem measurementOf_baseMembers (h : u.measurement = measurementOf k ms) :
    measurementOf .scaleOffset u.baseMembers = u.measurement := by
  cases measured : u.measurement with
  | none =>
      simp [measurementOf, present?, member?, get?_baseMembers_measurement, measured]
  | some m =>
      rw [measured] at h
      apply present?_eq_some.2
      refine ⟨?_, measurementOf_ne_null h.symm⟩
      rw [member?, get?_baseMembers_measurement, measured]

section

variable [JsonLibrary]

/-- What becomes of a base reference when it is read: it does not name the base symbol as such, so
the symbol has to come from what is measured. -/
theorem ofReference_baseReference_eq (h : ofReference reference = .ok u)
    (readable : Json.read? u.baseReference = some u.baseObject) :
    ofReference (.str u.baseReference) =
      match derivedSymbol? u.measurement with
      | some symbol => .ok { u.base with baseSymbol := symbol }
      | none => .error (.missingField "baseSymbol") := by
  rcases ofReference_eq_ok.1 h with ⟨ms, -, k, -, -, -, measured, -, -⟩
  have found : members (.str u.baseReference) = .ok u.baseMembers := by
    simp only [members, readable, baseObject_eq]
  have code : kind u.baseMembers = .ok .scaleOffset := by
    have type : u.baseMembers.get? "type" = some (.str Kind.scaleOffset.code) :=
      get?_baseMembers_of_ne (by decide)
    simp [kind, type, Kind.ofCode?, Kind.all, Kind.code]
  have measures := measurementOf_baseMembers measured
  have unnamed : text? u.baseMembers "baseSymbol" = .ok none := by
    have absent : u.baseMembers.get? "baseSymbol" = none := get?_baseMembers_of_ne (by decide)
    simp [Reference.text?, absent]
  have symbol : text? u.baseMembers "symbol" = .ok (some u.baseSymbol) := by
    have named : u.baseMembers.get? "symbol" = some (.str u.baseSymbol) :=
      get?_baseMembers_of_ne (by decide)
    simp [Reference.text?, named]
  simp only [ofReference, found, code, conversion_baseMembers, isRegular_toItself, measures,
    baseSymbolOf_unnamed unnamed, symbol, bind, Except.bind]
  cases derivedSymbol? u.measurement <;> rfl

/-- A unit whose reference does not name the base symbol has that of what it measures. -/
theorem derivedSymbol?_of_unnamed (h : ofReference reference = .ok u)
    (unnamed : ∀ ms, members reference = .ok ms → text? ms "baseSymbol" = .ok none) :
    derivedSymbol? u.measurement = some u.baseSymbol := by
  rcases ofReference_eq_ok.1 h with ⟨ms, found, k, -, -, -, -, symbol, -⟩
  rw [baseSymbolOf_unnamed (unnamed ms found)] at symbol
  cases derived : derivedSymbol? u.measurement with
  | none =>
      simp [derived] at symbol
  | some s =>
      simpa [derived] using symbol

/-- The reference of a base unit is read as that base unit. -/
theorem ofReference_baseReference (h : ofReference reference = .ok u)
    (derived : ∀ ms, members reference = .ok ms → text? ms "baseSymbol" = .ok none)
    (readable : Json.read? u.baseReference = some u.baseObject) :
    ofReference (.str u.baseReference) = .ok u.base := by
  rw [ofReference_baseReference_eq h readable, derivedSymbol?_of_unnamed h derived]
  rfl

end

end UnitFrame

namespace TimeFrame

theorem kind_canonical (kind : TimeKind) : (canonical kind).kind = kind := by
  cases kind <;> rfl

/-- The reference of a canonical frame is read as that frame. -/
theorem ofReference_canonical [JsonLibrary] (kind : TimeKind) :
    ofReference (.str (canonical kind).reference) = .ok (canonical kind) := by
  have wellFormed : (canonical kind).WellFormed := by
    cases kind with
    | date =>
        exact ⟨by decide, nofun⟩
    | dateTime =>
        refine ⟨by decide, ?_⟩
        rintro z ⟨⟩
        decide
  exact ofReference_reference wellFormed

end TimeFrame
end RefFrame
