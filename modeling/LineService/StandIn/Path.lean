import LineService.Text.Case
import LineService.Text.Numeral

/-!
# Names of settings

The key of a setting is read as a path: a name, and any number of steps into what the
name stands for, `.member` or `[index]`.  An index below zero counts from the end.  A
key that is no path is a plain name, whatever characters it has.  Names are in small
letters.
-/

namespace LineService.StandIn

/-- A step into what a name stands for. -/
inductive Step where
  | member (name : String)
  | index (i : Int)
  deriving DecidableEq, Repr

/-- Where a key puts its value. -/
structure Path where
  name : String
  steps : List Step
  deriving DecidableEq, Repr

namespace Path

/-- The characters of a name in a path. -/
def isNameChar (c : Char) : Bool := c.isAlphanum || c == '_' || c == '-' || c == ' '

/-- Spaces and tabulators may surround an index. -/
def isPadding (c : Char) : Bool := c == ' ' || c == '\t'

/-- A name, as it is known. -/
def known (name : List Char) : String := Text.lower (String.ofList name)

/-- The name at the front of a path; it has at least one character. -/
def name? (cs : List Char) : Option (List Char × List Char) :=
  let name := cs.takeWhile isNameChar
  if name = [] then none else some (name, cs.drop name.length)

/-- The number at the front of a text, which has to fit into 64 bits. -/
def number? (cs : List Char) : Option (Int × List Char) :=
  let sign := match cs with
    | '-' :: _ => ['-']
    | _ => []
  let digits := (cs.drop sign.length).takeWhile Char.isDigit
  (Numeral.integer? Int64.minValue.toInt Int64.maxValue.toInt
    (String.ofList (sign ++ digits))).map fun i => (i, cs.drop (sign.length + digits.length))

/-- An index, and what follows it and its closing bracket. -/
def index? (cs : List Char) : Option (Int × List Char) := do
  let (i, rest) ← number? (cs.dropWhile isPadding)
  match rest.dropWhile isPadding with
  | ']' :: rest => some (i, rest)
  | _ => none

/-- The first step of a path, and what follows it. -/
def step? : List Char → Option (Step × List Char)
  | '.' :: cs => (name? cs).map fun r => (.member (known r.1), r.2)
  | '[' :: cs => (index? cs).map fun r => (.index r.1, r.2)
  | _ => none

/-- The steps that take up the whole of a text, at most `n` of them. -/
def steps? (n : Nat) (cs : List Char) : Option (List Step) :=
  match n, cs with
  | _, [] => some []
  | 0, _ => none
  | n + 1, cs =>
    match step? cs with
    | some (s, rest) => (steps? n rest).map (s :: ·)
    | none => none

/-- A key that is a path. -/
def read? (key : List Char) : Option Path := do
  let (name, rest) ← name? key
  let steps ← steps? rest.length rest
  return ⟨known name, steps⟩

/-- Where a key puts its value. -/
def ofKey (key : String) : Path := (read? key.toList).getD ⟨Text.lower key, []⟩

end Path

end LineService.StandIn
