/-!
# Directories of files

A directory holds files, and no directories. Writing gives one name a text and leaves the others as they
are.
-/

namespace RefFrame

/-- Files by name, the first one of a name being the one that counts. -/
structure Directory where
  files : List (String × String)
  deriving DecidableEq, Repr

namespace Directory

def get? (d : Directory) (name : String) : Option String :=
  d.files.lookup name

/-- Gives a name a text: in its place if the name is there, and else at the end. -/
def put (name text : String) : List (String × String) → List (String × String)
  | [] => [(name, text)]
  | (n, t) :: rest => if name == n then (n, text) :: rest else (n, t) :: put name text rest

def insert (d : Directory) (name text : String) : Directory :=
  ⟨put name text d.files⟩

end Directory
end RefFrame
