/-!
# What is logged

A level says how much is logged. It holds for the program's own components; all others log warnings
and errors only.
-/

namespace RefFrame

/-- How much is logged. -/
inductive LogLevel
  | off
  | error
  | warn
  | info
  | debug
  | trace
  deriving DecidableEq, Repr

namespace LogLevel

def name : LogLevel → String
  | off => "off"
  | error => "error"
  | warn => "warn"
  | info => "info"
  | debug => "debug"
  | trace => "trace"

def all : List LogLevel :=
  [off, error, warn, info, debug, trace]

def ofName? (s : String) : Option LogLevel :=
  all.find? fun l => l.name == s

def components : List String :=
  ["georef_cli", "georef_geometry", "georef_model", "georef_normalization"]

/-- The filter for a level: what holds for all others, then each component with its level. -/
def directives (l : LogLevel) : String :=
  ",".intercalate (warn.name :: components.map fun c => c ++ "=" ++ l.name)

end LogLevel
end RefFrame
