import LineService.Net.Address
import LineService.Net.Fault
import LineService.Text.Numeral

/-!
# Hosts

A host is named by its internet address in any numeric form, by one of the few names that
every machine knows, or by a name that others have to be asked for.  A name consists of
labels with dots between them, in letters, digits, hyphens and underscores; a backslash
takes the character behind it, or the one whose number is written behind it, as it is.

`Host.addresses` answers as a machine does that nobody answers.
-/

namespace LineService.Net.Host

/-! ## Numeric forms -/

/-- A number in decimal, in octal behind a zero, or in hexadecimal behind `0x`. -/
def number? : List Char → Option Nat
  | '0' :: 'x' :: digits | '0' :: 'X' :: digits =>
    if digits.head? = some '+' then none else Numeral.hex? digits
  | '0' :: digits =>
    if digits.all fun c => '0' ≤ c && c ≤ '7' then some (Nat.ofDigitChars 8 digits 0) else none
  | digits => Numeral.digits? digits

/-- The address of version 4 that a number of 32 bits stands for. -/
def v4OfNat (n : Nat) : Ip :=
  .v4 (UInt8.ofNat (n / Nat.pow 256 3)) (UInt8.ofNat (n / Nat.pow 256 2)) (UInt8.ofNat (n / 256))
    (UInt8.ofNat n)

/-- An address of version 4 in one to four parts.  Every part but the last stands for one
byte, and the last one for all that are left. -/
def v4? (host : String) : Option Ip := do
  let parts ← (host.splitOn ".").mapM fun p => number? p.toList
  let firsts := parts.dropLast
  let last ← parts.getLast?
  if firsts.length ≤ 3 && firsts.all (· < 256) && last < Nat.pow 256 (4 - firsts.length) then
    some (v4OfNat (last +
      (firsts.zipIdx.map fun (p, i) => p * Nat.pow 256 (3 - i)).foldr (· + ·) 0))
  else none

/-- An address of version 6, with its scope if it has one. -/
def v6? (host : String) : Option (Ip × Nat) := do
  let (groups, rest) ← readV6? host.toList
  match rest with
  | [] => some (.v6 groups, 0)
  | '%' :: scope => do
    let n ← Numeral.digits? scope
    if n < UInt32.size then some (.v6 groups, n) else none
  | _ => none

/-- The address that a numeric form writes. -/
def numeric? (host : String) : Option (Ip × Nat) :=
  ((v4? host).map fun ip => (ip, 0)).or (v6? host)

/-! ## Names -/

/-- A character of a label. -/
def isLabelChar (c : Char) : Bool := c.isAlphanum || c == '-' || c == '_'

/-- The labels of a name, if it can be read; `label` is what has been read of the first. -/
def labels? (label : List Char) : List Char → Option (List (List Char))
  | [] => some (if label = [] then [] else [label])
  | '.' :: rest => if label = [] then none else (labels? [] rest).map (label :: ·)
  | '\\' :: a :: b :: c :: rest =>
    if a.isDigit then
      match Numeral.digits? [a, b, c] with
      | some n => if n < 256 then labels? (label ++ [Char.ofNat n]) rest else none
      | none => none
    else labels? (label ++ [a]) (b :: c :: rest)
  | ['\\', a, b] => if a.isDigit then none else labels? (label ++ [a]) [b]
  | ['\\', a] => if a.isDigit then none else labels? (label ++ [a]) []
  | ['\\'] => none
  | c :: rest => labels? (label ++ [c]) rest

/-- A name that can be asked for.  It does not begin with a hyphen, a label has at most 63
characters, and all of them with their lengths have at most 255; a dot alone is the name of
the root. -/
def isName (host : String) : Bool :=
  host = "." ||
    match labels? [] host.toList with
    | none | some [] => false
    | some labels =>
      labels.all (fun l => l.length ≤ 63 && l.all isLabelChar) &&
        labels.head?.bind List.head? != some '-' &&
        (labels.map fun l => l.length + 1).foldr (· + ·) 0 < 255

/-- The names that every machine knows, whatever the case of their letters. -/
def wellKnown? (host : String) : Option (List (Ip × Nat)) :=
  let own : Ip := .v4 127 0 0 1
  if host = "*" then some [((Ip.v6 #v[0, 0, 0, 0, 0, 0, 0, 0]).loopback, 0), (own, 0)]
  else if String.ofList (host.toList.map Char.toLower) = "localhost" then some [(own, 0)]
  else none

end Host

/-- The addresses of a host, with their scopes, in the order in which they are tried. -/
def Host.addresses (host : String) : Except Fault (List (Ip × Nat)) :=
  match (Host.numeric? host).map (fun a => [a]) |>.or (Host.wellKnown? host) with
  | some as => .ok as
  | none => .error (if Host.isName host then .unansweredHost else .unknownHost)

end LineService.Net
