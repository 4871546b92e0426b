import RefFrame.Decimal.Basic
import RefFrame.Json.Basic
import RefFrame.Text.Blank

/-!
# Numbers in data

A measured value arrives as a JSON number or as a text that holds one. Only finite numbers count:
a text such as `inf`, or one whose number is too big for a float, holds none.
-/

namespace RefFrame

/-- The finite number that a text holds, blanks around it aside. -/
def Text.float? (s : String) : Option Float :=
  match Decimal.ofText? (Text.trimmed s.toList) with
  | some d => if d.toFloat.isFinite then some d.toFloat else none
  | none => none

namespace Json

/-- The number that a value holds as a number or as a text. -/
def quantity? : Json → Option Float
  | num n => some n.toFloat
  | str s => Text.float? s
  | _ => none

/-- A finite float as a value; other floats have none. -/
def ofFinite? (x : Float) : Option Json :=
  if x.isFinite then some (num (.float x)) else none

end Json
end RefFrame
