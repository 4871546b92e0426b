import RefFrame.Json.Numeric
import RefFrame.Record.Conversion
import RefFrame.Reference.UnitFrame

/-!
# Converting quantities

Quantities are brought to the SI base unit of their unit. The first value that is no number ends
the entry, which then keeps its reference.
-/

namespace RefFrame

/-- The value of a quantity in the base unit, if it is a number and stays finite. -/
def UnitFrame.convert? (u : UnitFrame) (v : Json) : Option Json :=
  match v.quantity? with
  | some x => Json.ofFinite? (u.toBase.apply x)
  | none => none

namespace Conversion

def ofUnit (u : UnitFrame) : Conversion where
  pass := .unit
  judge name v :=
    if v.isNull then .missing
    else
      match u.convert? v with
      | some v' => .replace v'
      | none => .refuse (.illegalValue name)
  stopsAtRefusal := true
  relabel := ⟨u.baseReference, some u.baseSymbol⟩

/-- The conversion of quantities that a reference asks for. -/
def ofUnitReference [JsonLibrary] (reference : Json) : Except Issue Conversion :=
  match UnitFrame.ofReference reference with
  | .ok u => .ok (ofUnit u)
  | .error fault => .error (.invalidReference .unit fault)

end Conversion
end RefFrame
