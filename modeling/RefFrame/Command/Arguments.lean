import RefFrame.Command.Setting
import RefFrame.Geometry.Kind
import RefFrame.Record.Basic

/-!
# Arguments

Arguments are read one by one from left to right, and `Reading` says what has been read. The first
fault ends the reading, and so does a setting that asks for nothing but a text. The operand of a
setting is looked at when the next setting of its place comes, or else when all has been read. Then
a request is checked as well for what is missing and for what does not go together.
-/

namespace RefFrame

/-- Why arguments lead to no request. -/
inductive Halt
  /-- They cannot be understood. -/
  | misuse
  /-- They ask for the version. -/
  | version
  /-- They ask for help. -/
  | help
  deriving DecidableEq, Repr

/-- What to normalize and where the result goes. -/
structure NormalizeRequest where
  input : String
  output : Option String
  passes : Passes
  failOnError : Bool
  deriving DecidableEq, Repr

/-- What to inspect, and where it goes under a new tag. -/
structure InspectRequest where
  input : String
  retag : Option CrsVariant
  output : Option String
  deriving DecidableEq, Repr

/-- What is asked for. -/
inductive Request
  | normalize (r : NormalizeRequest)
  | inspect (r : InspectRequest)
  deriving DecidableEq, Repr

/-- A request, and where to log. -/
structure Invocation where
  request : Request
  logFile : Option String
  deriving DecidableEq, Repr

namespace Arguments

/-- Settings with their texts, in the order given; without an operand the text is empty. -/
abbrev Given := List (Setting × String)

def Given.has (g : Given) (s : Setting) : Bool :=
  (g.lookup s).isSome

def Given.agree (g : Given) : Bool :=
  !(g.has .verbose && g.has .quiet)

def Given.add (g : Given) (s : Setting) (text : String) : Except Halt Given :=
  if g.has s && !s.repeats then .error .misuse else .ok (g ++ [(s, text)])

def Given.addOperand (g : Given) (s : Setting) (text : String) : Except Halt Given :=
  if s.operand.accepts text then g.add s text else .error .misuse

/-- The settings of one place. The same setting in another place is no repetition. -/
structure Stretch where
  given : Given
  /-- The last setting, if its operand has not been looked at. -/
  held : Option (Setting × String)

namespace Stretch

def empty : Stretch := ⟨[], none⟩

def settle (p : Stretch) : Except Halt Given :=
  match p.held with
  | none => .ok p.given
  | some (s, text) => p.given.addOperand s text

end Stretch

/-- How the next argument is read. -/
inductive Mode
  /-- It may be a setting. -/
  | plain
  /-- It is the operand of a setting. -/
  | operand (s : Setting)
  /-- It is a word, whatever it looks like. -/
  | literal
  /-- It is the verb to get help on. -/
  | topic
  /-- There is none, for the verb to get help on has been read. -/
  | closed

/-- What has been read. -/
structure Reading where
  /-- The verb, once it has been read. -/
  verb : Option Verb
  /-- The settings before the verb. -/
  outer : Stretch
  /-- The settings in the present place. -/
  present : Stretch
  input : Option String
  mode : Mode

namespace Reading

def start : Reading :=
  ⟨none, .empty, .empty, none, .plain⟩

def withGiven (r : Reading) (g : Given) : Reading :=
  { r with present := ⟨g, none⟩ }

def settle (r : Reading) : Except Halt Reading :=
  r.present.settle.map r.withGiven

def take (r : Reading) (s : Setting) (text : String) : Except Halt Reading :=
  match s with
  | .version => .error .version
  | .help => .error .help
  | s => (r.present.given.add s text).map r.withGiven

/-- Takes a setting with its operand, which stands in the same argument. -/
def takeOperand (r : Reading) (s : Setting) (text : String) : Except Halt Reading :=
  (r.present.given.addOperand s text).map r.withGiven

/-- Takes a setting given by its long name, with what stands behind an equals sign. -/
def takeLong (r : Reading) (name : String) (attached : Option String) : Except Halt Reading :=
  match (Setting.allowed r.verb).find? fun s => s.long == name with
  | none => .error .misuse
  | some s =>
    match s.operand, attached with
    | .nothing, none => r.take s ""
    | .nothing, some _ => .error .misuse
    | _, some text => r.takeOperand s text
    | _, none => .ok { r with mode := .operand s }

/-- Takes settings given by letters. What follows the letter of a setting that takes an operand is
that operand, behind an equals sign or not. -/
def takeLetters (r : Reading) : List Char → Except Halt Reading
  | [] => .ok r
  | c :: rest =>
    match (Setting.allowed r.verb).find? fun s => s.letter? == some c with
    | none => .error .misuse
    | some s =>
      match s.operand, rest with
      | .nothing, rest => (r.take s "").bind fun r => takeLetters r rest
      | _, [] => .ok { r with mode := .operand s }
      | _, '=' :: text => r.takeOperand s (String.ofList text)
      | _, text => r.takeOperand s (String.ofList text)

def takeWord (r : Reading) (word : String) : Except Halt Reading :=
  match r.verb, r.input with
  -- Settings that follow the verb belong to another place.
  | none, _ =>
    match Verb.ofName? word with
    | some v => .ok { r with verb := some v, outer := r.present, present := .empty }
    | none => if word == Verb.helpName then .ok { r with mode := .topic } else .error .misuse
  | some _, none => if word == "" then .error .misuse else .ok { r with input := some word }
  | some _, some _ => .error .misuse

/-- Takes what help is asked for on: one of the verbs, or help itself. -/
def takeTopic (r : Reading) (word : String) : Except Halt Reading :=
  if (Verb.ofName? word).isSome || word == Verb.helpName then .ok { r with mode := .closed }
  else .error .misuse

/-- Whether an argument cannot be an operand on its own; a lone hyphen can. -/
def looksLikeSetting (arg : List Char) : Bool :=
  arg.head? == some '-' && arg != ['-']

/-- One argument further. Behind two lone hyphens there are only words, and a verb is none. -/
def step (r : Reading) (arg : String) : Except Halt Reading :=
  match r.mode, arg.toList with
  | .operand s, cs =>
    if looksLikeSetting cs then .error .misuse
    else .ok { r with present := ⟨r.present.given, some (s, arg)⟩, mode := .plain }
  | .topic, _ => r.takeTopic arg
  | .closed, _ => .error .misuse
  | .literal, _ => if r.verb.isNone then .error .misuse else r.takeWord arg
  | .plain, ['-', '-'] => .ok { r with mode := .literal }
  | .plain, '-' :: '-' :: cs =>
    let name := cs.takeWhile (· != '=')
    let attached := match cs.dropWhile (· != '=') with
      | [] => none
      | _ :: text => some (String.ofList text)
    r.settle.bind fun r => r.takeLong (String.ofList name) attached
  | .plain, '-' :: c :: cs => r.settle.bind fun r => r.takeLetters (c :: cs)
  | .plain, _ => r.takeWord arg

def retag? (g : Given) : Option CrsVariant :=
  (g.lookup .retag).map fun text => if text == "anycrs" then .anyCrs else .geoJson

/-- What is asked for by a verb with an input and settings. A new tag has to be given for there to be
an output of an inspection. -/
def request? (input : String) (g : Given) : Verb → Option Request
  | .normalize =>
    some (.normalize
      { input
        output := g.lookup .output
        passes := ⟨!g.has .noUnits, !g.has .noDates⟩
        failOnError := g.has .failOnError })
  | .inspect =>
    if g.has .output && !g.has .retag then none
    else some (.inspect ⟨input, retag? g, g.lookup .output⟩)

/-- The whole request, once the settings before the verb and behind it are known. Of two places to
log, the one given behind the verb is taken. -/
def invocation? (r : Reading) (outer given : Given) : Option Invocation := do
  let request ← request? (← r.input) given (← r.verb)
  if outer.agree && given.agree then
    some ⟨request, (given.lookup .logFile).or (outer.lookup .logFile)⟩
  else none

def finish (r : Reading) : Except Halt Invocation :=
  match r.mode with
  | .topic | .closed => .error .help
  -- An operand is still owed.
  | .operand _ => .error .misuse
  | .plain | .literal => do
    match r.invocation? (← r.outer.settle) (← r.present.settle) with
    | some i => .ok i
    | none => .error .misuse

end Reading

def read (args : List String) : Except Halt Invocation := do
  (← args.foldlM Reading.step .start).finish

end Arguments
end RefFrame
