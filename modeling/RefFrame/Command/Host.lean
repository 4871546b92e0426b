/-!
# Hosts

The command needs three things of its surroundings: to read a file, to write one, and to open one
for logging. `Host` names them for any monad.
-/

namespace RefFrame

/-- Why a file cannot be used. -/
inductive FileFault
  | missing
  | notDirectory
  | isDirectory
  | nameTooLong
  | noSpace
  /-- What else a host has to say. -/
  | other (text : String)
  deriving DecidableEq, Repr

def FileFault.message : FileFault → String
  | missing => "No such file or directory (os error 2)"
  | notDirectory => "Not a directory (os error 20)"
  | isDirectory => "Is a directory (os error 21)"
  | nameTooLong => "File name too long (os error 36)"
  | noSpace => "No space left on device (os error 28)"
  | other text => text

/-- What the command needs of its surroundings. Files are named by paths. -/
structure Host (m : Type → Type) where
  /-- The text of a file. -/
  read : String → m (Except FileFault String)
  /-- Makes a file with a text, or gives a file a new one. -/
  write : String → String → m (Except FileFault Unit)
  /-- Opens a file to add to it; a new file is empty. -/
  openLog : String → m (Except FileFault Unit)

end RefFrame
