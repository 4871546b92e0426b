/-!
# Disclosure of values

Values of records are shown in logs only when that has been asked for.
-/

namespace RefFrame

/-- What stands in the place of a value that is not shown. -/
def withheld : String := "[REDACTED]"

def disclose (enabled : Bool) (value : String) : String :=
  if enabled then value else withheld

end RefFrame
