import LineService.Files.Path
import LineService.Settings.Load
import LineService.StandIn.Document
import LineService.StandIn.Tree
import LineService.Text.Utf8

/-!
# A library that collects settings

The library that collects a server's settings is no part of this project.  This one stands in for
it where the program is run: it reads the ini files, key paths and variables that the program has
been tried with as that library does.  What is proved of loading settings rests on none of its
definitions.

A source is read into keys and what is said of them.  Key by key this is laid over what the sources
before have said.  A key may put its value inside a table or a sequence, and a heading makes a
table, but a server's settings are texts: a name that stands for anything else in the end is an
error.
-/

namespace LineService.StandIn

open Settings (Setback Table)

/-! ## Sources -/

/-- Where settings are looked for. -/
inductive Origin where
  | ini (path : String) (content : List UInt8)
  | environment (opening : String) (vars : List (String × String))

/-- What is said of the keys of a source. -/
abbrev RawKeys := List (String × Said)

/-- What a file says of its keys: its entries, then its headings.  Keys are told apart
exactly, and the last use of a key counts. -/
def Document.rawKeys (d : Document) : RawKeys :=
  let entries := d.entries.foldl (fun ks e => put e.1 (.text e.2) ks) []
  d.sections.foldl (fun ks e => put e.1 (.heading e.2) ks) entries

/-- What a file says. -/
def readFile (path : String) (content : List UInt8) : Except Setback RawKeys :=
  match Utf8.decode? content with
  | none => .error (.refused "stream did not contain valid UTF-8")
  | some text =>
    match Document.read text with
    | .error fault => .error (.refused (fault.message ++ " in " ++ Files.tidy path))
    | .ok d => .ok d.rawKeys

/-- What a variable says, if its name goes on with an underscore behind `opening`. -/
def readVariable (opening : String) (v : String × String) : Option (String × Said) :=
  (Text.after? (Text.lower (opening ++ "_")) (Text.lower v.1)).map fun key => (key, .text v.2)

/-- What a source says. -/
def collect : Origin → Except Setback RawKeys
  | .ini path content => readFile path content
  | .environment opening vars => .ok (vars.filterMap (readVariable opening))

/-! ## All sources together -/

/-- Lays what is said of a key over what is known; an index that cannot be used is nothing that
the library is ready for. -/
def layKey (l : Layers) (e : String × Said) : Except Setback Layers :=
  (l.lay e.1 e.2).mapError fun f => .broke f.message

/-- Lays what a source says over what is known. -/
def layOrigin (l : Layers) (o : Origin) : Except Setback Layers := do
  (← collect o).foldlM layKey l

/-- What sources say together. -/
def build (os : List Origin) : Except Setback Layers := os.foldlM layOrigin []

/-- What a name may stand for beside a text. -/
inductive Shape where
  | table
  | sequence
  deriving DecidableEq, Repr

/-- How a shape is called in messages. -/
def Shape.noun : Shape → String
  | .table => "map"
  | .sequence => "sequence"

/-- Reports a name that stands for no text. -/
def structured (name : String) (shape : Shape) : Setback :=
  .refused ("invalid type: " ++ shape.noun ++ ", expected a string for key `" ++ name ++ "`")

/-- The text a name stands for; nothing is never asked for. -/
def readText : String × Node → Except Setback (String × String)
  | (name, .text value) => .ok (name, value)
  | (name, .sequence ..) => .error (structured name .sequence)
  | (name, _) => .error (structured name .table)

/-- The texts that names stand for, if all of them stand for texts. -/
def texts (l : Layers) : Except Setback Table := l.mapM readText

/-- The library that the program is run with. -/
def library : Settings.Library where
  Origin := Origin
  Value := Said
  Config := Layers
  text := .text
  ini := .ini
  environment := .environment
  collect := collect
  build := build
  texts := texts

end LineService.StandIn
