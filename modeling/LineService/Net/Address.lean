/-!
# Addresses of endpoints

An address is an internet address of version 4 or 6 and a port.  `Address.render`
writes the usual form: four decimal numbers, or eight groups of hexadecimal digits
of which the longest run of at least two zero groups (the first of equals) is
written as `::`, with the dotted form for a mapped version 4 address.
`Address.read?` accepts that form and every other spelling of the same address.

`Address.wake` is the address at which a listener can be reached from the machine
itself: a listener bound to the unspecified address is reached over loopback.
-/

namespace LineService.Net

/-- An internet address. -/
inductive Ip where
  | v4 (a b c d : UInt8)
  | v6 (groups : Vector UInt16 8)
  deriving DecidableEq, Repr

/-- An internet address and a port.  `scope` distinguishes the interfaces that a
link-local address of version 6 may belong to; 0 means none is named. -/
structure Address where
  ip : Ip
  scope : Nat
  port : UInt16
  deriving DecidableEq, Repr

namespace Ip

/-- The address that stands for every interface of the machine. -/
def isUnspecified : Ip → Bool
  | .v4 a b c d => a = 0 && b = 0 && c = 0 && d = 0
  | .v6 groups => groups.toList.all (· = 0)

/-- The loopback address of the same version. -/
def loopback : Ip → Ip
  | .v4 .. => .v4 127 0 0 1
  | .v6 _ => .v6 #v[0, 0, 0, 0, 0, 0, 0, 1]

/-- Four numbers with dots between them. -/
def dotted (a b c d : UInt8) : String :=
  ".".intercalate ([a, b, c, d].map fun n => toString n.toNat)

/-- Groups of hexadecimal digits with colons between them. -/
def colons (groups : List UInt16) : String :=
  ":".intercalate (groups.map fun g => String.ofList (Nat.toDigits 16 g.toNat))

/-- The number of zero groups in a row from position `i` on. -/
def zerosAt (groups : List UInt16) (i : Nat) : Nat :=
  ((groups.drop i).takeWhile (· = 0)).length

/-- Where the longest run of zero groups begins, the first of equals. -/
def longestZeros (groups : List UInt16) : Nat :=
  (List.range groups.length).foldl
    (fun best i => if zerosAt groups best < zerosAt groups i then i else best) 0

/-- The usual form of an address. -/
def render : Ip → String
  | .v4 a b c d => dotted a b c d
  | .v6 groups =>
    match groups.toList with
    | [0, 0, 0, 0, 0, 0xFFFF, g, h] =>
      "::ffff:" ++ dotted (g >>> 8).toUInt8 g.toUInt8 (h >>> 8).toUInt8 h.toUInt8
    | gs =>
      let i := longestZeros gs
      let n := zerosAt gs i
      if 2 ≤ n then colons (gs.take i) ++ "::" ++ colons (gs.drop (i + n)) else colons gs

end Ip

/-! ## Reading -/

/-- A number of at most `max` in the given base, of at most `width` digits, with
what follows it. -/
def readNumber? (base width max : Nat) (cs : List Char) : Option (Nat × List Char) :=
  let isDigit (c : Char) : Bool := c.isDigit || base == 16 && (c.toLower ≤ 'f' && 'a' ≤ c.toLower)
  let digits := cs.takeWhile isDigit
  let value (c : Char) : Nat :=
    if c.isDigit then c.toNat - '0'.toNat else c.toLower.toNat - 'a'.toNat + 10
  let n := digits.foldl (fun n c => base * n + value c) 0
  if digits ≠ [] ∧ digits.length ≤ width ∧ n ≤ max then some (n, cs.drop digits.length) else none

/-- One of the four numbers of a dotted address: no sign, no needless zero. -/
def readOctet? (cs : List Char) : Option (UInt8 × List Char) := do
  let (n, rest) ← readNumber? 10 3 255 cs
  if cs.head? = some '0' ∧ n ≠ 0 ∨ cs.take 2 = ['0', '0'] then none
  else some (UInt8.ofNat n, rest)

/-- The rest after a given character. -/
def skip? (c : Char) : List Char → Option (List Char)
  | [] => none
  | d :: rest => if d = c then some rest else none

/-- The four numbers of a dotted address. -/
def readDotted? (cs : List Char) : Option ((UInt8 × UInt8 × UInt8 × UInt8) × List Char) := do
  let (a, cs) ← readOctet? cs
  let (b, cs) ← readOctet? (← skip? '.' cs)
  let (c, cs) ← readOctet? (← skip? '.' cs)
  let (d, cs) ← readOctet? (← skip? '.' cs)
  some ((a, b, c, d), cs)

/-- Two bytes as a group. -/
def groupOf (high low : UInt8) : UInt16 := high.toUInt16 <<< 8 ||| low.toUInt16

/-- At most `room` groups with colons between them, the last two possibly in dotted
form, with what follows; and whether the dotted form was used. -/
def readGroups : (room : Nat) → (first : Bool) → List Char → List UInt16 × Bool × List Char
  | 0, _, cs => ([], false, cs)
  | room + 1, first, cs =>
    match if first then some cs else skip? ':' cs with
    | none => ([], false, cs)
    | some here =>
      match if room = 0 then none else readDotted? here with
      | some ((a, b, c, d), rest) => ([groupOf a b, groupOf c d], true, rest)
      | none =>
        match readNumber? 16 4 0xFFFF here with
        | none => ([], false, cs)
        | some (n, rest) =>
          let (groups, used, rest) := readGroups room false rest
          (UInt16.ofNat n :: groups, used, rest)

/-- Eight groups, or fewer on both sides of a `::` that stands for the zeros between. -/
def readV6? (cs : List Char) : Option (Vector UInt16 8 × List Char) := do
  let (head, used, rest) := readGroups 8 true cs
  if h : head.toArray.size = 8 then some (⟨head.toArray, h⟩, rest)
  else if used then none
  else
    let rest ← skip? ':' (← skip? ':' rest)
    let (tail, _, rest) := readGroups (7 - head.length) true rest
    let all := (head ++ List.replicate (8 - head.length - tail.length) 0 ++ tail).toArray
    if h : all.size = 8 then some (⟨all, h⟩, rest) else none

/-- The port after an internet address. -/
def readPort? (cs : List Char) : Option UInt16 := do
  let rest ← skip? ':' cs
  let (port, rest) ← readNumber? 10 rest.length 0xFFFF rest
  if rest.isEmpty then some (UInt16.ofNat port) else none

/-- An address in any of its spellings. -/
def Address.read? (s : String) : Option Address :=
  match s.toList with
  | '[' :: cs => do
    let (groups, rest) ← readV6? cs
    let (scope, rest) ← match rest with
      | '%' :: rest => readNumber? 10 rest.length 0xFFFFFFFF rest
      | rest => some (0, rest)
    some ⟨.v6 groups, scope, ← readPort? (← skip? ']' rest)⟩
  | cs => do
    let ((a, b, c, d), rest) ← readDotted? cs
    some ⟨.v4 a b c d, 0, ← readPort? rest⟩

/-! ## Writing -/

/-- The usual form of an address and its port. -/
def Address.render (a : Address) : String :=
  let port := ":" ++ toString a.port.toNat
  match a.ip with
  | .v4 .. => a.ip.render ++ port
  | .v6 _ =>
    let scope := if a.scope = 0 then "" else "%" ++ toString a.scope
    "[" ++ a.ip.render ++ scope ++ "]" ++ port

/-- Where a listener bound to this address can be reached from the machine itself: the address
that a new stop signal connects to. -/
def Address.wake (a : Address) : Address :=
  ⟨if a.ip.isUnspecified then a.ip.loopback else a.ip, 0, a.port⟩

end LineService.Net
