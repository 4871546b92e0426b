import RefFrame.Command.Run
import RefFrame.Json.Exact
import RefFrame.Zone.Table

/-!
# The program

Runs the command on the files of the system, prints its output and what it has to say, and exits with
its code.
-/

namespace RefFrame

/-- The number of an error of the system, which some operations give negated. -/
def errorNumber (code : UInt32) : UInt32 :=
  min code (0 - code)

def FileFault.ofError : IO.Error → FileFault
  | .noFileOrDirectory .. => .missing
  | .inappropriateType _ code _ => if errorNumber code = 21 then .isDirectory else .notDirectory
  | .invalidArgument _ code details =>
    if errorNumber code = 36 then .nameTooLong else .other details
  | .resourceExhausted _ code details =>
    if errorNumber code = 28 then .noSpace else .other details
  | e => .other (toString e)

/-- The outcome of an action on a file. -/
def attempt {α : Type} (action : IO α) : IO (Except FileFault α) := do
  match ← action.toBaseIO with
  | .ok a => return .ok a
  | .error e => return .error (.ofError e)

def systemHost : Host IO where
  read path := attempt (IO.FS.readFile path)
  write path text := attempt do
    let file ← IO.FS.Handle.mk path .write
    file.putStr text
    -- A full device says so only now.
    file.flush
  openLog path := attempt do
    let _ ← IO.FS.Handle.mk path .append
    return ()

end RefFrame

open RefFrame BuiltIn in
def main (args : List String) : IO UInt32 := do
  let done ← systemHost.run args
  IO.print done.output
  IO.eprint done.errors
  return done.exit.toUInt32
