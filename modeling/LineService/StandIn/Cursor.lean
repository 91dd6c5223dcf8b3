/-!
# A place in a settings file

A cursor stands on a character of a text, or behind its last one, and knows the
line and the column it is reported with.  Moving onto a line feed begins a line, at
column 0, and moving onto any other character goes one column further; the first
character is moved onto like every other.  Moving on from the end changes nothing.

Reading by a cursor ends because moving on from a character leaves fewer of them
(`bump_rest_length_lt`).
-/

namespace LineService.StandIn

/-- The characters from the current one on, and the place of the current one. -/
structure Cursor where
  rest : List Char
  line : Nat
  column : Nat
  deriving DecidableEq, Repr

namespace Cursor

/-- Moves onto the first character of `rest`, coming from the given place. -/
def moveOnto (line column : Nat) (rest : List Char) : Cursor :=
  match rest with
  | [] => ⟨[], line, column⟩
  | c :: cs => if c = '\n' then ⟨c :: cs, line + 1, 0⟩ else ⟨c :: cs, line, column + 1⟩

/-- On the first character of a text. -/
def start (text : List Char) : Cursor := moveOnto 0 0 text

/-- Moves on by one character. -/
def bump (c : Cursor) : Cursor := moveOnto c.line c.column c.rest.tail

@[simp]
theorem moveOnto_rest (line column : Nat) (rest : List Char) :
    (moveOnto line column rest).rest = rest := by
  unfold moveOnto
  split
  · rfl
  · split <;> rfl

@[simp]
theorem bump_rest (c : Cursor) : c.bump.rest = c.rest.tail :=
  moveOnto_rest c.line c.column c.rest.tail

theorem bump_rest_length_lt {c : Cursor} {ch : Char} {rest : List Char} (hc : c.rest = ch :: rest) :
    c.bump.rest.length < c.rest.length := by
  simp [hc]

/-- Moves past every character that satisfies `p`. -/
def skipWhile (p : Char → Bool) (c : Cursor) : Cursor :=
  match h : c.rest with
  | [] => c
  | ch :: _ =>
    if p ch then
      have : c.bump.rest.length < c.rest.length := by simp [h]
      skipWhile p c.bump
    else c
termination_by c.rest.length

@[simp]
theorem skipWhile_rest (p : Char → Bool) (c : Cursor) :
    (c.skipWhile p).rest = c.rest.dropWhile p := by
  fun_induction skipWhile p c with
  | case1 c h => simp [h]
  | case2 c ch cs h hp _ ih => simp [ih, h, hp]
  | case3 c ch cs h hp => simp [h, hp]

/-- Moves past the next line feed, or to the end. -/
def skipLine (c : Cursor) : Cursor := (c.skipWhile (· != '\n')).bump

end Cursor

end LineService.StandIn
