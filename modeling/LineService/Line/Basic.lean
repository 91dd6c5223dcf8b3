import LineService.Net.Fault
import LineService.Text.Blank
import LineService.Text.Utf8

/-!
# Lines of a byte stream

Both ends of a connection exchange lines: a text and one line feed.  A line takes
at most `limit` bytes, its line feed included.  `cut` takes the bytes of one line
off the front of a stream, `next` reads that line, and `all` reads a whole stream.

What `cut` takes off and what it leaves are together the stream it was given, and
it takes nothing only from an empty stream.  So reading ends, and no byte is lost
or read twice, over-long lines included.
-/

namespace LineService.Line

/-- The line feed, which ends a line. -/
def terminator : UInt8 := 10

/-- The greatest number of bytes of a line, its line feed included. -/
def limit : Nat := 4096

/-- Carriage returns and line feeds end a line's text. -/
def isTerminator (c : Char) : Bool := c == '\r' || c == '\n'

/-- A line's text: all but the carriage returns and line feeds at its end.  This is the protocol's
`trim_terminator`. -/
def trim (line : String) : String :=
  String.ofList (Text.dropEnd isTerminator line.toList)

/-- The bytes that put a text on the wire: what the line stream's `write_line` sends. -/
def write (text : String) : List UInt8 := Utf8.encode text ++ [terminator]

/-! ## Taking one line off a stream -/

/-- The bytes up to and including the first line feed, but at most `n` of them, and
the bytes after these. -/
def cut : (n : Nat) → List UInt8 → List UInt8 × List UInt8
  | 0, rest => ([], rest)
  | _ + 1, [] => ([], [])
  | n + 1, b :: rest =>
    if b = terminator then ([b], rest)
    else
      let tail := cut n rest
      (b :: tail.1, tail.2)

/-- A piece that no byte arriving later can change: it has its line feed, or it has
reached the limit without one. -/
def settled (piece : List UInt8) : Bool :=
  piece.getLast? = some terminator || piece.length = limit

/-- Why no line could be read. -/
inductive Trouble where
  | tooLong
  | fault (f : Net.Fault)
  deriving DecidableEq, Repr

/-- The sentence that reports the trouble. -/
def Trouble.message : Trouble → String
  | .tooLong => "LineStream: line exceeds " ++ toString limit ++ " bytes"
  | .fault f => f.message

/-- The outcome of asking a stream for a line. -/
inductive Reading where
  /-- A line's text, and the number of bytes it took. -/
  | line (text : String) (size : Nat)
  /-- The stream is at its end. -/
  | finished
  | trouble (t : Trouble)
  deriving DecidableEq, Repr

/-- What a piece taken off a stream says. -/
def readPiece (piece : List UInt8) : Reading :=
  if piece = [] then .finished
  else if piece.getLast? ≠ some terminator ∧ piece.length = limit then .trouble .tooLong
  else .line (trim (Utf8.decodeLossy piece)) piece.length

/-- The next line of a stream and the rest of the stream: the line stream's `read_line`. -/
def next (bytes : List UInt8) : Reading × List UInt8 :=
  (readPiece (cut limit bytes).1, (cut limit bytes).2)

/-! ## Nothing is lost -/

@[simp]
theorem cut_append (n : Nat) (bytes : List UInt8) :
    (cut n bytes).1 ++ (cut n bytes).2 = bytes := by
  fun_induction cut n bytes with
  | case1 => rfl
  | case2 => rfl
  | case3 => rfl
  | case4 n b rest h tail ih => simp [tail, ih]

/-- A stream with a byte left gives at least one. -/
theorem cut_snd_length_lt {n : Nat} (hn : 0 < n) {bytes : List UInt8} (h : bytes ≠ []) :
    (cut n bytes).2.length < bytes.length := by
  match n, bytes with
  | n + 1, b :: rest =>
    have hle := congrArg List.length (cut_append n rest)
    rw [List.length_append] at hle
    unfold cut
    split
    · simp
    · simp only [List.length_cons]; omega

/-! ## Reading a whole stream -/

/-- The lines of a stream that ends after the given bytes. -/
def all (bytes : List UInt8) : List Reading :=
  if h : bytes = [] then []
  else
    have := cut_snd_length_lt (show 0 < limit by decide) h
    (next bytes).1 :: all (next bytes).2
termination_by bytes.length

end LineService.Line
