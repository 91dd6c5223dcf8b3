/-!
# Texts as bytes

A text travels as the bytes of its UTF-8 form.  Bytes that arrive need not be
such a form, so decoding is a machine over single bytes that reports *pieces*:
the characters it recognises, and a broken piece for every maximal run of bytes
that begins a character without finishing it, and for every byte that begins
none.  A byte that cannot continue the character under way is looked at afresh
as the beginning of the next one, which is why a broken character never takes
a byte of its successor with it.

Two readers share the machine.  `decodeLossy` puts the replacement character in
the place of each broken piece; `decode?` refuses a text that has one.
-/

namespace LineService.Utf8

/-- The bytes of a text. -/
def encode (s : String) : List UInt8 := s.toList.flatMap String.utf8EncodeChar

/-- What decoding reports. -/
inductive Piece where
  | scalar (c : Char)
  | broken
  deriving DecidableEq, Repr

/-- The replacement character, U+FFFD. -/
def replacement : Char := Char.ofNat 0xFFFD

/-- The character a piece stands for when nothing is refused. -/
def Piece.lossy : Piece → Char
  | .scalar c => c
  | .broken => replacement

/-- The character of a piece, if it is one. -/
def Piece.scalar? : Piece → Option Char
  | .scalar c => some c
  | .broken => none

/-- A character under way: the bits read so far, the number of bytes that must
follow the next one, and the range in which the next one must lie. -/
structure Partial where
  bits : Nat
  owed : Nat
  low : UInt8
  high : UInt8
  deriving DecidableEq, Repr

/-- The character that a first byte of several announces.  The ranges exclude
forms longer than necessary, the surrogates, and everything above U+10FFFF. -/
def lead? (b : UInt8) : Option Partial :=
  if b < 0xC2 then none
  else if b < 0xE0 then some ⟨b.toNat - 0xC0, 0, 0x80, 0xBF⟩
  else if b < 0xF0 then
    some ⟨b.toNat - 0xE0, 1, if b = 0xE0 then 0xA0 else 0x80, if b = 0xED then 0x9F else 0xBF⟩
  else if b < 0xF5 then
    some ⟨b.toNat - 0xF0, 2, if b = 0xF0 then 0x90 else 0x80, if b = 0xF4 then 0x8F else 0xBF⟩
  else none

/-- A byte between characters. -/
def begin (b : UInt8) : List Piece × Option Partial :=
  if b < 0x80 then ([.scalar (Char.ofNat b.toNat)], none)
  else match lead? b with
    | some p => ([], some p)
    | none => ([.broken], none)

/-- One byte, with or without a character under way. -/
def step : Option Partial → UInt8 → List Piece × Option Partial
  | none, b => begin b
  | some p, b =>
    if p.low ≤ b ∧ b ≤ p.high then
      let bits := p.bits * 64 + (b.toNat - 0x80)
      match p.owed with
      | 0 => ([.scalar (Char.ofNat bits)], none)
      | n + 1 => ([], some ⟨bits, n, 0x80, 0xBF⟩)
    else (.broken :: (begin b).1, (begin b).2)

/-- The pieces of a byte string that continues what is under way. -/
def piecesFrom : Option Partial → List UInt8 → List Piece
  | none, [] => []
  | some _, [] => [.broken]
  | st, b :: bs => (step st b).1 ++ piecesFrom (step st b).2 bs

/-- The pieces of a byte string. -/
def pieces (bytes : List UInt8) : List Piece := piecesFrom none bytes

/-- The text of a byte string, with the replacement character for broken pieces. -/
def decodeLossy (bytes : List UInt8) : String :=
  String.ofList ((pieces bytes).map Piece.lossy)

/-- The text of a byte string that is the form of one. -/
def decode? (bytes : List UInt8) : Option String :=
  ((pieces bytes).mapM Piece.scalar?).map String.ofList

end LineService.Utf8
