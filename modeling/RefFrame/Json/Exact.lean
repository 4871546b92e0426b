import RefFrame.Decimal.Basic
import RefFrame.Json.Library

/-!
# Exact reading of numbers

The library of JSON that reads each number as the float next to it. `open BuiltIn` puts it to use.
-/

namespace RefFrame
namespace BuiltIn

scoped instance json : JsonLibrary where
  float minus whole fraction exponent := (Decimal.ofParts minus whole fraction exponent).toFloat
  refusal _ := "not a document"

end BuiltIn
end RefFrame
