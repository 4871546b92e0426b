import RefFrame.Command.Directory
import RefFrame.Command.Host
import RefFrame.Text.Ascii
import RefFrame.Text.Pieces

/-!
# Where paths lead

A path leads to a directory, to a name in the directory that it starts from, to a device, or to a
name somewhere else. Of what stands outside that directory only what every system has is known: the
usual directories below the root, and some devices.
-/

namespace RefFrame

/-- How many bytes a path may have. -/
def longestPath : Nat := 4095

/-- How many bytes a name may have. -/
def longestName : Nat := 255

/-! ## What every system has -/

/-- A file that holds no text. -/
inductive Device
  /-- Is empty, and stays so whatever is written to it. -/
  | sink
  /-- Has no room for anything. -/
  | full
  /-- Shows what is written to it. -/
  | screen
  deriving DecidableEq, Repr

/-- The devices by their names. The input is empty, and what goes to the output for errors is not
shown. -/
def Device.ofName? : String → Option Device
  | "null" | "zero" | "stdin" | "stderr" => some .sink
  | "full" => some .full
  | "stdout" => some .screen
  | _ => none

/-- What a path leads to. Whether a name is too long is asked only when a file is looked for. -/
inductive Place
  | directory
  | device (d : Device)
  /-- A name in the directory that paths start from, taken or free. -/
  | inside (name : List Char)
  /-- A name somewhere else, where no file is known. -/
  | outside (name : List Char)
  deriving DecidableEq, Repr

namespace Place

/-- The directories below the root. -/
def systemNames : List (List Char) :=
  ["bin", "boot", "dev", "etc", "home", "lib", "media", "mnt", "opt", "proc", "root", "run", "sbin",
    "srv", "sys", "tmp", "usr", "var"].map String.toList

/-- What is known to be at the end of a way from the root, given by its names, the last one first. -/
def ofNames? : List (List Char) → Option Place
  | [] => some directory
  | [name] => if name ∈ systemNames then some directory else none
  | [name, top] =>
    if top = "dev".toList then (Device.ofName? (String.ofList name)).map device else none
  | _ => none

/-! ## Walking -/

/-- Why the way does not go on from a name that is not that of a directory. -/
def deadEnd (name : List Char) (taken : Bool) : FileFault :=
  if longestName < Text.byteLength name then .nameTooLong
  else if taken then .notDirectory else .missing

/-- The way along the parts of a path from a directory outside, which is given by its names. -/
def walk : List (List Char) → List (List Char) → Except FileFault Place
  | _, [] => .ok directory
  | names, part :: rest =>
    if part = [] ∨ part = ['.'] then walk names rest
    else if part = ['.', '.'] then walk names.tail rest
    else
      match ofNames? (part :: names) with
      | some directory => walk (part :: names) rest
      | found =>
        if rest = [] then .ok (found.getD (outside part)) else .error (deadEnd part found.isSome)

/-- The names of the directory above, which stands below the root and has no name that is known. -/
def above : List (List Char) := [[]]

end Place

namespace Directory

/-- The way along the parts of a path from this directory. Only the last part may name a file. -/
def walk (d : Directory) : List (List Char) → Except FileFault Place
  | [] => .ok .directory
  | part :: rest =>
    if part = [] ∨ part = ['.'] then walk d rest
    else if part = ['.', '.'] then Place.walk Place.above rest
    else if rest = [] then .ok (.inside part)
    -- There are no directories below, so with more to come the way ends here.
    else .error (Place.deadEnd part (d.get? (String.ofList part)).isSome)

/-- What a path leads to. A path that begins with a slash starts from the root. -/
def place (d : Directory) (path : List Char) : Except FileFault Place :=
  match Text.pieces '/' path with
  | ([], rest) => Place.walk [] rest
  | (part, rest) => d.walk (part :: rest)

/-- What the path of a new file leads to. A slash at the end asks for a directory. -/
def newPlace (d : Directory) (path : List Char) : Except FileFault Place :=
  match path.reverse with
  | '/' :: cs => (d.place (cs.dropWhile (· = '/')).reverse).map fun _ => .directory
  | _ => d.place path

end Directory

/-! ## Files -/

/-- A place that may be that of a file. -/
inductive FilePlace
  | device (d : Device)
  | inside (name : String)
  | outside
  deriving DecidableEq, Repr

def Place.file : Place → Except FileFault FilePlace
  | directory => .error .isDirectory
  | device d => .ok (.device d)
  | inside name =>
    if longestName < Text.byteLength name then .error .nameTooLong
    else .ok (.inside (String.ofList name))
  | outside name =>
    if longestName < Text.byteLength name then .error .nameTooLong else .ok .outside

namespace Directory

/-- The file that a path leads to in one of the two ways above. -/
def fileOn (way : List Char → Except FileFault Place) (path : String) :
    Except FileFault FilePlace :=
  if longestPath < Text.byteLength path.toList then .error .nameTooLong
  else (way path.toList).bind Place.file

def file (d : Directory) (path : String) : Except FileFault FilePlace :=
  fileOn d.place path

/-- The file that a path leads to when it may be made there. -/
def newFile (d : Directory) (path : String) : Except FileFault FilePlace :=
  fileOn d.newPlace path

end Directory
end RefFrame
