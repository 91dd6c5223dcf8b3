import LineService.Files.Fault
import LineService.Files.Path

/-!
# A working directory

What a program finds when it opens files by their paths: the files it knows of, the
directories in which it runs, and the few that stand below the root of every system.  A file
that is to be written and does not exist can be created in any of these directories.
-/

namespace LineService.Files

/-- What stands where a file is to be opened for writing. -/
inductive Place where
  /-- Nothing; a file can be created. -/
  | vacant
  /-- A file with this content. -/
  | file (content : String)
  /-- A file can be neither opened nor created there. -/
  | barred (reason : Fault)
  deriving DecidableEq, Repr

/-- The content of the file once it has been opened for appending. -/
def Place.opened : Place → Option String
  | .vacant => some ""
  | .file content => some content
  | .barred _ => none

/-- The files there are, with their contents. -/
structure Directory where
  files : List (Location × String)
  deriving DecidableEq, Repr

namespace Directory

/-- No files. -/
def empty : Directory := ⟨[]⟩

/-- Directories below the root of every system. -/
def standing : List String := ["dev", "etc", "home", "proc", "sys", "tmp", "usr", "var"]

/-- A directory stands at a place. -/
def hasDirectory (l : Location) : Bool :=
  match l.base, l.down with
  | _, [] => true
  | .root, [name] => standing.contains name
  | _, _ => false

/-- The content of the file at a place. -/
def content? (d : Directory) (l : Location) : Option String := d.files.lookup l

/-- The directory to which names lead from another one. -/
def descend (d : Directory) (l : Location) : List String → Except Fault Location
  | [] => .ok l
  | name :: rest =>
    if staysPut name then d.descend l rest
    else if name = ".." then d.descend l.parent rest
    else if maxName < size name then .error .nameTooLong
    else if hasDirectory (l.child name) then d.descend (l.child name) rest
    else if (d.content? (l.child name)).isSome then .error .notDirectory
    else .error .notFound

/-- The place at which the last name of a path stands for a file in a directory. -/
def locateIn (l : Location) (name : String) : Except Fault Location :=
  if name = "." || name = ".." then .error .isDirectory
  else if maxName < size name then .error .nameTooLong
  else if hasDirectory (l.child name) then .error .isDirectory
  else .ok (l.child name)

/-- The place of the file that is opened for writing by a path.  A slash at the end stands
for a directory, whatever is there. -/
def locate (d : Directory) (path : String) : Except Fault Location :=
  if path.toList.contains '\x00' then .error .endsEarly
  else if path = "" then .error .notFound
  else if maxPath ≤ size path then .error .nameTooLong
  else
    let all := (names path).reverse
    match all.dropWhile (· = "") with
    | [] => .error .isDirectory
    | last :: before => do
      let l ← d.descend (.start path) before.reverse
      if all.head? = some "" then .error .isDirectory else locateIn l last

/-- What stands where a path leads. -/
def place (d : Directory) (path : String) : Place :=
  match d.locate path with
  | .error f => .barred f
  | .ok l => ((d.content? l).map Place.file).getD .vacant

/-- The content of the file at a path, if there is one. -/
def read? (d : Directory) (path : String) : Option String :=
  (d.locate path).toOption.bind d.content?

/-- The directory with that content in the file at a path, if the file can be written. -/
def write (d : Directory) (path content : String) : Directory :=
  match d.locate path with
  | .error _ => d
  | .ok l => ⟨(l, content) :: d.files⟩

end Directory

end LineService.Files
