import LineService.Settings.Basic
import LineService.Text.Case

/-!
# Where settings come from

The settings of a server are collected by a library that is no part of this project.  It is asked
for the texts of two sources together, the settings file, if there is one, and after it the
variables of the environment whose names begin with `LINE_SERVER_`.  What it answers are texts under
names.  The names are then taken in small letters, and the settings are read from the texts.

What the library does is its own affair, so here it is a parameter (`Library`).  Whatever it fails
at is reported in its own words.
-/

namespace LineService.Settings

/-! ## The library -/

/-- Why the library gives no texts. -/
inductive Setback where
  /-- It says why. -/
  | refused (reason : String)
  /-- It came to grief itself. -/
  | broke (message : String)
  deriving DecidableEq, Repr

/-- A library that collects settings. -/
structure Library where
  /-- Where it looks for settings. -/
  Origin : Type
  /-- What may stand under a key. -/
  Value : Type
  /-- What all sources say together. -/
  Config : Type
  /-- A text that stands under a key. -/
  text : String → Value
  /-- The file at a path that has this content, in the ini format. -/
  ini : (path : String) → (content : List UInt8) → Origin
  /-- Those variables of the environment whose names go on with an underscore behind `opening`. -/
  environment : (opening : String) → (vars : List (String × String)) → Origin
  /-- What a source says, under keys as it writes them. -/
  collect : Origin → Except Setback (List (String × Value))
  /-- What sources say together. -/
  build : List Origin → Except Setback Config
  /-- The texts that stand under all names, if nothing else does. -/
  texts : Config → Except Setback Table

/-! ## Loading -/

/-- Why no settings could be loaded. -/
inductive LoadError where
  | collect (s : Setback)
  | invalid (e : Invalid)
  deriving DecidableEq, Repr

/-- The sentence that reports a failure to collect settings. -/
def collectMessage (reason : String) : String := "failed to load configuration: " ++ reason

/-- The sentence that reports the error. -/
def LoadError.message : LoadError → String
  | .collect (.refused reason) => collectMessage reason
  | .collect (.broke message) => message
  | .invalid e => e.message

/-- Where the first settings came from. -/
inductive Source where
  | file (path : String)
  | defaults
  deriving DecidableEq, Repr

/-- How the names of the variables begin that hold settings. -/
def variableOpening : String := "LINE_SERVER"

/-- A table with its names in small letters. -/
def inSmall (t : Table) : Table := t.map (Prod.map Text.lower id)

namespace Library

variable (library : Library)

/-- The sources of settings: the file, if there is one, and the environment behind it. -/
def origins (opening path : String) (file : Option (List UInt8))
    (environment : List (String × String)) : List library.Origin :=
  (file.map (library.ini path)).toList ++ [library.environment opening environment]

/-- Loads the settings from the file at `path`, if there is one, and the variables whose names
begin with `opening`: the server configuration's `load_with_prefix`.  Of names that small letters
make equal, the last counts. -/
def loadWith (opening path : String) (file : Option (List UInt8))
    (environment : List (String × String)) : Except LoadError (Settings × Source) := do
  let config ← (library.build (library.origins opening path file environment)).mapError .collect
  let texts ← (library.texts config).mapError .collect
  let settings ← (ofTable (inSmall texts).reverse).mapError .invalid
  return (settings, if file.isSome then .file path else .defaults)

/-- Loads the settings of a server: the server configuration's `load`. -/
def load (path : String) (file : Option (List UInt8)) (environment : List (String × String)) :
    Except LoadError (Settings × Source) :=
  library.loadWith variableOpening path file environment

end Library

end LineService.Settings
