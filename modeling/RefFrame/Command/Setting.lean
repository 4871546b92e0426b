import RefFrame.Command.Logging

/-!
# Settings of the command line

A setting is given by a long name behind two hyphens or, if it has one, by a letter behind one. It
takes nothing, one of some words, or a path. Which settings may be given depends on the place:
before the verb, or behind it.
-/

namespace RefFrame

/-- What can be done with a document. -/
inductive Verb
  | normalize
  | inspect
  deriving DecidableEq, Repr

namespace Verb

def name : Verb → String
  | normalize => "normalize"
  | inspect => "inspect"

/-- The word that stands in the place of a verb to get help. -/
def helpName : String := "help"

def ofName? (s : String) : Option Verb :=
  [normalize, inspect].find? fun v => v.name == s

end Verb

/-- What can be set on the command line. -/
inductive Setting
  | verbose
  | quiet
  | color
  | logLevel
  | logFormat
  | logFile
  | logData
  | version
  | help
  | output
  | noUnits
  | noDates
  | failOnError
  | retag
  deriving DecidableEq, Repr

/-- What a setting takes. -/
inductive Operand
  | nothing
  | oneOf (words : List String)
  | path

/-- Whether a text will do. A path has at least one character. -/
def Operand.accepts (text : String) : Operand → Bool
  | nothing => false
  | oneOf words => words.contains text
  | path => text != ""

namespace Setting

def long : Setting → String
  | verbose => "verbose"
  | quiet => "quiet"
  | color => "color"
  | logLevel => "log-level"
  | logFormat => "log-format"
  | logFile => "log-file"
  | logData => "log-data"
  | version => "version"
  | help => "help"
  | output => "output"
  | noUnits => "no-units"
  | noDates => "no-dates"
  | failOnError => "fail-on-error"
  | retag => "retag"

def letter? : Setting → Option Char
  | verbose => some 'v'
  | quiet => some 'q'
  | version => some 'V'
  | help => some 'h'
  | output => some 'o'
  | _ => none

def operand : Setting → Operand
  | color => .oneOf ["auto", "always", "never"]
  | logLevel => .oneOf ((LogLevel.all.filter (· != .off)).map LogLevel.name)
  | logFormat => .oneOf ["pretty", "compact", "json"]
  | retag => .oneOf ["anycrs", "geojson"]
  | logFile | output => .path
  | _ => .nothing

/-- Whether the setting may be given several times in one place. -/
def repeats : Setting → Bool
  | verbose | quiet => true
  | _ => false

/-- The settings that may be given in both places. -/
def common : List Setting :=
  [verbose, quiet, color, logLevel, logFormat, logFile, logData, help]

/-- The settings that may be given while no verb has been read, and behind a verb. -/
def allowed : Option Verb → List Setting
  | none => version :: common
  | some .normalize => [output, noUnits, noDates, failOnError] ++ common
  | some .inspect => [retag, output] ++ common

end Setting
end RefFrame
