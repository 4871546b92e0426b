/-!
# The library of JSON

Reading JSON text is laid down by its grammar but for two things: which float a written number becomes,
and what is said about a text that is no document. `JsonLibrary` has both.
-/

namespace RefFrame

/-- What reading JSON text is free to choose. -/
class JsonLibrary where
  /-- The float for a number with or without a minus, with the digits before and behind its point and with
  its exponent. A number too big for a float becomes an infinite one. -/
  float : Bool → List Char → List Char → Int → Float
  /-- Why a text is no document. -/
  refusal : String → String

end RefFrame
