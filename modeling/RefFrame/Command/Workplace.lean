import RefFrame.Command.Place

/-!
# Workplaces

A directory of files, with a screen, is a host: reading looks a text up in the directory, and
writing puts one in or shows it. Files that are made elsewhere leave no trace.
-/

namespace RefFrame

/-- Where a command runs: its directory, and what it has shown on the screen. -/
structure Workplace where
  directory : Directory
  shown : String
  deriving DecidableEq, Repr

namespace Workplace

def ofDirectory (d : Directory) : Workplace := ⟨d, ""⟩

def read (w : Workplace) (path : String) : Except FileFault String :=
  match w.directory.file path with
  | .error e => .error e
  | .ok (.device _) => .ok ""
  | .ok (.inside name) =>
    match w.directory.get? name with
    | some text => .ok text
    | none => .error .missing
  | .ok .outside => .error .missing

def write (path text : String) : StateM Workplace (Except FileFault Unit) := fun w =>
  match w.directory.newFile path with
  | .error e => (.error e, w)
  | .ok (.device .sink) => (.ok (), w)
  | .ok (.device .full) => (.error .noSpace, w)
  | .ok (.device .screen) => (.ok (), ⟨w.directory, w.shown ++ text⟩)
  | .ok (.inside name) => (.ok (), ⟨w.directory.insert name text, w.shown⟩)
  | .ok .outside => (.ok (), w)

/-- Makes the file that a path leads to, if it is not there yet. -/
def openLog (path : String) : StateM Workplace (Except FileFault Unit) := fun w =>
  match w.directory.newFile path with
  | .error e => (.error e, w)
  | .ok (.device _) => (.ok (), w)
  | .ok (.inside name) =>
    (.ok (), ⟨w.directory.insert name ((w.directory.get? name).getD ""), w.shown⟩)
  | .ok .outside => (.ok (), w)

def host : Host (StateM Workplace) where
  read path := fun w => (w.read path, w)
  write := write
  openLog := openLog

end Workplace
end RefFrame
