import RefFrame.Command.Arguments
import RefFrame.Command.Host
import RefFrame.Geometry.Decode
import RefFrame.Geometry.Encode
import RefFrame.Json.Printer
import RefFrame.Record.Batch

/-!
# Running the command

The command reads one document, and writes one to a file or to its output. What it has to say about
the records goes to the error output. Nothing is written unless the document can be read, and a failure
is one notice and the exit code 1. A panic ends the run at once, with an exit code of its own.

Three things that go to the error output are left out: the table of the records or of the document, the
lines of the log, and what is said about a panic.
-/

namespace RefFrame

/-- What a run leaves behind, apart from files. -/
structure Completion where
  exit : Nat
  output : String
  /-- The text on the error output. -/
  errors : String
  deriving DecidableEq, Repr

def versionText : String := "georef 0.1.0"

namespace Completion

/-- A text with notices, each of which ends with a new line. -/
def printed (notices : List String) : String :=
  String.join (notices.map (· ++ "\n"))

def failed (reason : String) : Completion :=
  ⟨1, "", printed ["error: " ++ reason]⟩

def panicked : Completion :=
  ⟨101, "", ""⟩

def ofHalt : Halt → Completion
  | .misuse => ⟨2, "", ""⟩
  | .version => ⟨0, versionText ++ "\n", ""⟩
  | .help => ⟨0, "", ""⟩

end Completion

section Run

variable {m : Type → Type} [Monad m] [JsonLibrary] [ZoneLibrary]

/-- The fault of a file, with what was to be done with it. -/
def FileFault.about (e : FileFault) (action path : String) : String :=
  action ++ " " ++ path ++ ": " ++ e.message

/-- Delivers a document: to a file, or as the output that is returned. -/
def Host.deliver (host : Host m) (document : Json) (path : Option String) :
    m (Except String String) := do
  let text := document.pretty ++ "\n"
  match path with
  | none => return .ok text
  | some path =>
    match ← host.write path text with
    | .ok () => return .ok ""
    | .error e => return .error (e.about "write" path)

namespace NormalizeRequest

/-- The normalized records of a text; nothing if one of them panics. -/
def records (r : NormalizeRequest) (text : String) :
    Except Batch.Fault (Option (List Record)) :=
  (Batch.ofText text).map (Batch.normalize? r.passes)

/-- The document that records make: their trees in their order. -/
def document (rs : List Record) : Json :=
  .arr (rs.map Record.tree)

/-- A notice for each message of each record, in their order. -/
def diagnostics (rs : List Record) : List String :=
  (Batch.rows rs).flatMap fun (label, r) => r.messages.map fun m => "- " ++ label ++ ": " ++ m

def notices (r : NormalizeRequest) (rs : List Record) : List String :=
  let found := diagnostics rs
  (if found.isEmpty then [] else "Diagnostics:" :: found) ++
    r.output.toList.map ("Output: " ++ ·)

def exit (r : NormalizeRequest) (rs : List Record) : Nat :=
  if r.failOnError && (Batch.counts rs).hasErrors then 1 else 0

def run (host : Host m) (r : NormalizeRequest) : m Completion := do
  match ← host.read r.input with
  | .error e => return .failed (e.about "read" r.input)
  | .ok text =>
    match r.records text with
    | .error e => return .failed ("load " ++ r.input ++ ": " ++ e.message)
    | .ok none => return .panicked
    | .ok (some rs) =>
      match ← host.deliver (document rs) r.output with
      -- A document that cannot be written leaves nothing to say about its records.
      | .error reason => return .failed reason
      | .ok output => return ⟨r.exit rs, output, Completion.printed (r.notices rs)⟩

end NormalizeRequest

namespace InspectRequest

/-- Inspects the GeoJSON object of a file. It is written only under a new tag. -/
def run (host : Host m) (r : InspectRequest) : m Completion := do
  match ← host.read r.input with
  | .error e => return .failed (e.about "read" r.input)
  | .ok text =>
    match GeoJson.ofText text with
    | .error e => return .failed ("parse GeoJSON " ++ r.input ++ ": " ++ e.message)
    | .ok g =>
      match r.retag with
      | none => return ⟨0, "", ""⟩
      | some v =>
        match ← host.deliver (GeoJson.toJson (g.setVariant v)) r.output with
        | .error reason => return .failed reason
        | .ok output => return ⟨0, output, ""⟩

end InspectRequest

def Request.run (host : Host m) : Request → m Completion
  | .normalize r => r.run host
  | .inspect r => r.run host

def Invocation.run (host : Host m) (i : Invocation) : m Completion := do
  match i.logFile with
  | none => i.request.run host
  | some path =>
    match ← host.openLog path with
    | .ok () => i.request.run host
    | .error e => return .failed (e.about "open log file" path)

def Host.run (host : Host m) (args : List String) : m Completion :=
  match Arguments.read args with
  | .ok i => i.run host
  | .error h => pure (.ofHalt h)

end Run
end RefFrame
