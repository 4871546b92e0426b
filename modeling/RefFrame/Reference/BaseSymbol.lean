import RefFrame.Text.Ascii
import RefFrame.Text.Blank

/-!
# Base units of measurements

A measurement names what it measures by an ancestry such as `Length` or `L.Length`, whose first
part decides the SI base unit.
-/

namespace RefFrame

/-- The SI base units, each with the names of the measurements it serves, in small letters. -/
def baseSymbols : List (String × List String) :=
  [("m", ["l", "length"]),
   ("s", ["t", "time"]),
   ("kg", ["m", "mass"]),
   ("K", ["k", "temperature", "thermodynamictemperature", "thermodynamic_temperature"]),
   ("rad", ["a", "angle", "planeangle", "plane_angle"]),
   ("sr", ["s", "solidangle", "solid_angle"]),
   ("A", ["i", "electriccurrent", "electric_current"]),
   ("mol", ["n", "amountofsubstance", "amount_of_substance"]),
   ("cd", ["j", "luminousintensity", "luminous_intensity"]),
   ("m2", ["area"]),
   ("m3", ["volume"]),
   ("m/s", ["velocity"]),
   ("m/s2", ["acceleration"]),
   ("kg/m3", ["density"]),
   ("Pa", ["pressure"]),
   ("N", ["force"]),
   ("J", ["energy"]),
   ("W", ["power"]),
   ("Hz", ["frequency"])]

/-- The base unit for an ancestry, by its part before the first point, without blanks around it and
in any case. -/
def baseSymbol? (ancestry : String) : Option String :=
  let root := Text.lowered (Text.trimmed (ancestry.toList.takeWhile (· ≠ '.')))
  (baseSymbols.find? fun entry => entry.2.contains (String.ofList root)).map Prod.fst

end RefFrame
