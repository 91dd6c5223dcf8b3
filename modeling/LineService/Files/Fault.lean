import LineService.Net.Fault

/-!
# What the file system can refuse

The faults that opening a file can report, and the sentence in which each is reported.
-/

namespace LineService.Files

/-- Why a file cannot be opened. -/
inductive Fault where
  /-- The path contains the character that ends names within the system. -/
  | endsEarly
  | notFound
  | notDirectory
  | isDirectory
  | nameTooLong
  /-- A fault that is known by its sentence only. -/
  | other (text : String)
  deriving DecidableEq, Repr

/-- What the system calls a fault. -/
def Fault.text : Fault → String
  | .endsEarly => "file name contained an unexpected NUL byte"
  | .notFound => "No such file or directory"
  | .notDirectory => "Not a directory"
  | .isDirectory => "Is a directory"
  | .nameTooLong => "File name too long"
  | .other text => text

/-- The number under which the system knows a fault. -/
def Fault.number? : Fault → Option Nat
  | .notFound => some 2
  | .notDirectory => some 20
  | .isDirectory => some 21
  | .nameTooLong => some 36
  | .endsEarly | .other _ => none

/-- The sentence that reports a fault. -/
def Fault.message (f : Fault) : String :=
  match f.number? with
  | some code => Net.numbered f.text code
  | none => f.text

/-- The fault that the system knows under a number. -/
def Fault.ofNumber? (code : Nat) : Option Fault :=
  [notFound, notDirectory, isDirectory, nameTooLong].find? fun f => f.number? = some code

end LineService.Files
