import LineService.StandIn.Path

/-!
# What names stand for

A name stands for a text, or for a table or a sequence that the paths of keys have built
under it.  Whatever a step goes into becomes what the step needs: what is no table becomes
an empty one for a member, and what is no sequence an empty one for an index.  A sequence
grows to take an index beyond its end; an index counted from the end must not reach
before its first place.
-/

namespace LineService.StandIn

/-- What a name stands for. -/
inductive Node where
  | nothing
  | text (value : String)
  | table (members : List (String × Node))
  /-- A sequence of a certain length; places that are not listed hold nothing. -/
  | sequence (length : Nat) (items : List (Nat × Node))

/-- Why an index cannot be used. -/
inductive IndexFault where
  | beforeStart
  /-- A sequence that reaches so far takes more room than there is. -/
  | noRoom
  deriving DecidableEq, Repr

/-- The words that report the fault. -/
def IndexFault.message : IndexFault → String
  | .beforeStart => "attempt to subtract with overflow"
  | .noRoom => "capacity overflow"

/-- Puts a value under a key, in the place of the value it had. -/
def put {κ ν : Type} [BEq κ] (k : κ) (v : ν) (l : List (κ × ν)) : List (κ × ν) :=
  if l.any (·.1 == k) then l.map fun e => if e.1 == k then (k, v) else e else l ++ [(k, v)]

namespace Node

/-- The members of a table; anything else has none. -/
def members : Node → List (String × Node)
  | .table ms => ms
  | _ => []

/-- The length and the items of a sequence; anything else has none. -/
def items : Node → Nat × List (Nat × Node)
  | .sequence n is => (n, is)
  | _ => (0, [])

/-- The greatest length of a sequence: its items take 96 bytes each, and 63 bits count
them. -/
def maxLength : Nat := (Nat.pow 2 63 - 1) / 96

/-- The place that an index means in a sequence of a certain length. -/
def place (length : Nat) (i : Int) : Except IndexFault Nat :=
  if 0 ≤ i then
    if i.toNat < maxLength then .ok i.toNat else .error .noRoom
  else if i.natAbs ≤ length then .ok (length - i.natAbs)
  else .error .beforeStart

/-- Changes what a path leads to. -/
def edit (change : Node → Node) : List Step → Node → Except IndexFault Node
  | [], n => .ok (change n)
  | .member k :: rest, n => do
    let m ← edit change rest ((n.members.lookup k).getD .nothing)
    return .table (put k m n.members)
  | .index i :: rest, n => do
    let u ← place n.items.1 i
    let m ← edit change rest ((n.items.2.lookup u).getD .nothing)
    return .sequence (max n.items.1 (u + 1)) (put u m n.items.2)

/-- A table with the entries of a section. -/
def withEntries (n : Node) (entries : List (String × String)) : Node :=
  entries.foldl (fun t e => .table (put (Text.lower e.1) (.text e.2) t.members)) n

/-- The entries of a section join what a name stands for; a section without entries makes
an empty table where there is nothing. -/
def join (entries : List (String × String)) : Node → Node
  | .nothing => withEntries (.table []) entries
  | n => withEntries n entries

end Node

/-- What is said of a key: its text, or the entries of the section it heads. -/
inductive Said where
  | text (value : String)
  | heading (entries : List (String × String))
  deriving DecidableEq, Repr

/-- What a key makes of what its path leads to.  A heading at an index replaces what was
there; at a name it joins. -/
def Said.change (steps : List Step) : Said → Node → Node
  | .text v, _ => .text v
  | .heading entries, n =>
    match steps.getLast? with
    | some (.index _) => Node.join entries .nothing
    | _ => Node.join entries n

/-- What every name stands for, in the order in which the names were first set. -/
abbrev Layers := List (String × Node)

/-- Lays what is said of a key over what is known. -/
def Layers.lay (l : Layers) (key : String) (said : Said) : Except IndexFault Layers := do
  let path := Path.ofKey key
  let node ← ((l.lookup path.name).getD .nothing).edit (said.change path.steps) path.steps
  return put path.name node l

end LineService.StandIn
