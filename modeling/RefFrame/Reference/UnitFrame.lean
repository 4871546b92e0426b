import RefFrame.Reference.BaseSymbol
import RefFrame.Reference.Basic

/-!
# Units as frames of reference

A `UnitFrame` is a unit with its linear way to the SI base unit of what it measures.
`UnitFrame.ofReference` reads the three grammars of unit references, and `baseReference` writes the
reference of the base unit, whose way to SI is the identity.
-/

namespace RefFrame

/-- The map `x * scale + offset`. -/
structure LinearMap where
  scale : Float
  offset : Float
  deriving DecidableEq, Repr

namespace LinearMap

def apply (f : LinearMap) (x : Float) : Float :=
  x * f.scale + f.offset

def identity : LinearMap := ⟨1.0, 0.0⟩

/-- A map that loses nothing by design: its numbers are finite and its scale is not zero. -/
def isRegular (f : LinearMap) : Bool :=
  !(f.scale == 0.0) && f.scale.isFinite && f.offset.isFinite

end LinearMap

/-- A unit with its conversion to the SI base unit. -/
structure UnitFrame where
  symbol : Option String
  toBase : LinearMap
  baseSymbol : String
  /-- What the unit measures, as the reference says it. -/
  measurement : Option Json

namespace UnitFrame

open Reference

/-- The conversion of a unit with a scale and an offset: `scale * (x - offset)`. The two numbers
stand in the member `scaleOffset` or, without it, beside the other members, where the offset may be
left out. -/
def ofScaleOffset (ms : Members) : Except Fault LinearMap := do
  let (scale, offset) ←
    match ms.get? "scaleOffset" with
    | some (.obj numbers) => do
      let scale ← number numbers "scale"
      let offset ← number numbers "offset"
      pure (scale, offset)
    | some _ => throw (.invalidField "scaleOffset" .notObject)
    | none => do
      let scale ← number ms "scale"
      let offset ←
        -- An offset that is `null` has not been left out: it is asked for, and found missing.
        match ms.get? "offset" with
        | none => pure 0.0
        | some _ => number ms "offset"
      pure (scale, offset)
  return ⟨scale, -offset * scale⟩

/-- The conversion `(a + b * x) / (c + d * x)` of a unit, which has to be linear. -/
def ofFraction (ms : Members) : Except Fault LinearMap :=
  match ms.get? "abcd" with
  | some (.obj numbers) => do
    let a ← number numbers "a"
    let b ← number numbers "b"
    let c ← number numbers "c"
    let d ← number numbers "d"
    if !(d == 0.0) then throw (.invalidField "abcd" .notLinear)
    if c == 0.0 then throw (.invalidField "abcd" .zeroDivisor)
    return ⟨b / c, a / c⟩
  | _ => .error (.missingField "abcd")

/-- The conversion that a reference of some kind describes. -/
def conversion (k : Kind) (ms : Members) : Except Fault LinearMap :=
  match k with
  | .scaleOffset => ofScaleOffset ms
  | .fraction => ofFraction ms
  | .measurement => .ok .identity
  | .date | .dateTime => .error (.otherFamily .unit k)

/-- What a unit measures: a measurement measures itself, other units say it in a member. -/
def measurementOf (k : Kind) (ms : Members) : Option Json :=
  match k with
  | .measurement => some (.obj ms)
  | _ => (Json.obj ms).present? "baseMeasurement"

/-- The base unit: as the reference names it, else by the ancestry of what is measured. -/
def baseSymbolOf (ms : Members) (measurement : Option Json) : Except Fault String := do
  match ← text? ms "baseSymbol" with
  | some symbol => return symbol
  | none =>
    match measurement.bind (·.member? "ancestry") with
    | some (.str ancestry) =>
      match baseSymbol? ancestry with
      | some symbol => return symbol
      | none => throw (.missingField "baseSymbol")
    | _ => throw (.missingField "baseSymbol")

def ofReference [JsonLibrary] (reference : Json) : Except Fault UnitFrame := do
  let ms ← members reference
  let k ← kind ms
  let toBase ← conversion k ms
  if !toBase.isRegular then throw (.invalidField "scaleOffset" .degenerate)
  let measurement := measurementOf k ms
  let baseSymbol ← baseSymbolOf ms measurement
  let symbol ← text? ms "symbol"
  return { symbol, toBase, baseSymbol, measurement }

def baseObject (u : UnitFrame) : Json :=
  let measurement := match u.measurement with
    | some m => [("baseMeasurement", m)]
    | none => []
  .obj (measurement ++
    [("scaleOffset", .obj [("offset", .num (.float 0.0)), ("scale", .num (.float 1.0))]),
     ("symbol", .str u.baseSymbol),
     ("type", .str Kind.scaleOffset.code)])

def baseReference (u : UnitFrame) : String :=
  u.baseObject.compact

end UnitFrame
end RefFrame
