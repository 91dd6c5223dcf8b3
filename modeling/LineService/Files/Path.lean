import LineService.Text.Utf8

/-!
# Paths of files

A path is a sequence of names with slashes between them.  It leads from the working
directory, or from the root of the system if it begins with a slash, through directories to
a file.  An empty name and `.` lead nowhere else, and `..` leads to the directory above.
-/

namespace LineService.Files

/-- The names of a path. -/
def names (path : String) : List String := path.splitOn "/"

/-- A path begins at the root of the system. -/
def isAbsolute (path : String) : Bool := path.toList.head? = some '/'

/-- A name that leads nowhere else. -/
def staysPut (name : String) : Bool := name = "" || name = "."

/-- A path without the names that lead nowhere else. -/
def tidy (path : String) : String :=
  (if isAbsolute path then "/" else "") ++
    "/".intercalate ((names path).filter fun n => !staysPut n)

/-- The greatest number of bytes in a name. -/
def maxName : Nat := 255

/-- A path has to be shorter than this number of bytes. -/
def maxPath : Nat := 4096

/-- The number of bytes of a text. -/
def size (s : String) : Nat := (Utf8.encode s).length

/-! ## Places -/

/-- Where a path can begin. -/
inductive Base where
  /-- The directory so many levels above the working directory. -/
  | above (levels : Nat)
  | root
  deriving DecidableEq, Repr

/-- A place in the file system: a way down from its base. -/
structure Location where
  base : Base
  down : List String
  deriving DecidableEq, Repr

namespace Location

/-- Where a path begins. -/
def start (path : String) : Location := ⟨if isAbsolute path then .root else .above 0, []⟩

/-- The place of that name in a directory. -/
def child (l : Location) (name : String) : Location := ⟨l.base, l.down ++ [name]⟩

/-- The directory above; there is none above the root. -/
def parent (l : Location) : Location :=
  match l.base, l.down with
  | .above n, [] => ⟨.above (n + 1), []⟩
  | b, down => ⟨b, down.dropLast⟩

end Location

end LineService.Files
