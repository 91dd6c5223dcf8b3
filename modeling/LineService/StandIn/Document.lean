import LineService.StandIn.Cursor
import LineService.Text.Blank
import LineService.Text.Numeral
import LineService.Text.Quoted

/-!
# Settings files

A settings file holds comments, which begin with `;` or `#` at the beginning of a
line, section headings in brackets, and entries: a key, `=` or `:`, and a value up to
the end of the line.  A value may begin with a quoted part.  Everywhere in keys,
headings and values a backslash begins an escape.

`Document.read` gives the entries before the first heading and the sections with
theirs.  A file that cannot be
read is reported with the place at which reading stopped.
-/

namespace LineService.StandIn

/-! ## What a stretch of text runs up to -/

/-- Where a key, a heading or a value ends. -/
inductive Stop where
  /-- The sign between a key and its value. -/
  | sign
  /-- The bracket that closes a heading. -/
  | bracket
  /-- The same quote again. -/
  | quote (q : Char)
  /-- The end of the line or of the file. -/
  | lineEnd
  deriving DecidableEq, Repr

/-- A character ends the stretch. -/
def Stop.has : Stop → Char → Bool
  | .sign, c => c == '=' || c == ':'
  | .bracket, c => c == ']'
  | .quote q, c => c == q
  | .lineEnd, c => c == '\n' || c == '\r'

/-- The end of the file ends the stretch. -/
def Stop.atEnd : Stop → Bool
  | .lineEnd => true
  | _ => false

/-- A character that may be there. -/
def someChar (c : Char) : String := "Some(" ++ Text.quoted c ++ ")"

/-- The list of what would have ended the stretch. -/
def Stop.wanted : Stop → String
  | .sign => "[" ++ someChar '=' ++ ", " ++ someChar ':' ++ "]"
  | .bracket => "[" ++ someChar ']' ++ "]"
  | .quote q => "[" ++ someChar q ++ "]"
  | .lineEnd => "[" ++ someChar '\n' ++ ", " ++ someChar '\r' ++ ", None]"

/-! ## Why a file cannot be read -/

/-- What is wrong at a place. -/
inductive Flaw where
  /-- A comment that does not begin its line. -/
  | inlineComment
  /-- A value without a key before it. -/
  | missingKey
  /-- The file ends inside a stretch. -/
  | unfinished (stop : Stop)
  /-- A backslash among the digits of a code point that no line feed follows. -/
  | strayBackslash (found : Option Char)
  /-- Digits that name no character. -/
  | badCode
  deriving DecidableEq, Repr

/-- A flaw and its place. -/
structure Fault where
  line : Nat
  column : Nat
  flaw : Flaw
  deriving DecidableEq, Repr

/-- The sentence that reports a flaw. -/
def Flaw.message : Flaw → String
  | .inlineComment => "doesn't support inline comment"
  | .missingKey => "missing key"
  | .unfinished stop => "expecting \"" ++ stop.wanted ++ "\" but found EOF."
  | .strayBackslash found =>
    "expecting \"\\\\n\" but found \"" ++ found.elim "None" someChar ++ "\"."
  | .badCode => "unknown character in \\xHH form"

/-- The sentence that reports a fault; lines and columns are counted from 1. -/
def Fault.message (f : Fault) : String :=
  toString (f.line + 1) ++ ":" ++ toString (f.column + 1) ++ " " ++ f.flaw.message

/-- A flaw at the place of the cursor. -/
def Cursor.fault (c : Cursor) (flaw : Flaw) : Fault := ⟨c.line, c.column, flaw⟩

/-! ## Escapes -/

/-- Moves on `n` times and collects the characters; a backslash among them has to
stand before a line feed. -/
def codeDigits (stop : Stop) : Nat → Cursor → Except Fault (List Char × Cursor)
  | 0, c => .ok ([], c)
  | n + 1, c =>
    let here := c.bump
    match here.rest with
    | [] => .error (here.fault (.unfinished stop))
    | '\\' :: _ =>
      let after := here.bump
      match after.rest with
      | '\n' :: _ => do
        let (cs, last) ← codeDigits stop n after
        .ok ('\n' :: cs, last)
      | rest => .error (after.fault (.strayBackslash rest.head?))
    | ch :: _ => do
      let (cs, last) ← codeDigits stop n here
      .ok (ch :: cs, last)

/-- The character with the given number. -/
def scalar? (n : Nat) : Option Char :=
  if h : n.isValidChar then some (Char.ofNatAux n h) else none

/-- What the escape whose letter the cursor stands on stands for; the cursor ends on
its last character. -/
def escape (stop : Stop) (c : Cursor) : Except Fault (List Char × Cursor) :=
  match c.rest with
  | [] => .error (c.fault (.unfinished stop))
  | '0' :: _ => .ok (['\x00'], c)
  | 'a' :: _ => .ok (['\x07'], c)
  | 'b' :: _ => .ok (['\x08'], c)
  | 't' :: _ => .ok (['\t'], c)
  | 'r' :: _ => .ok (['\r'], c)
  | 'n' :: _ => .ok (['\n'], c)
  | '\n' :: _ => .ok ([], c)
  | 'x' :: _ => do
    let (digits, last) ← codeDigits stop 4 c
    match (Numeral.hex? digits).bind scalar? with
    | some ch => .ok ([ch], last)
    | none => .error (last.fault .badCode)
  | ch :: _ => .ok ([ch], c)

theorem codeDigits_rest_length {stop : Stop} {n : Nat} {c last : Cursor} {cs : List Char}
    (h : codeDigits stop n c = .ok (cs, last)) : last.rest.length ≤ c.rest.length := by
  induction n generalizing c cs with
  | zero => cases h; exact Nat.le_refl _
  | succ n ih =>
    simp only [codeDigits] at h
    split at h
    · cases h
    · split at h
      · cases hd : codeDigits stop n c.bump.bump with
        | error e => rw [hd] at h; cases h
        | ok p =>
          rw [hd] at h
          cases h
          have := ih hd
          simp only [Cursor.bump_rest, List.length_tail] at this
          omega
      · cases h
    · cases hd : codeDigits stop n c.bump with
      | error e => rw [hd] at h; cases h
      | ok p =>
        rw [hd] at h
        cases h
        have := ih hd
        simp only [Cursor.bump_rest, List.length_tail] at this
        omega

theorem escape_rest_length {stop : Stop} {c last : Cursor} {cs : List Char}
    (h : escape stop c = .ok (cs, last)) : last.rest.length ≤ c.rest.length := by
  unfold escape at h
  split at h
  case h_9 =>
    cases hd : codeDigits stop 4 c with
    | error e => rw [hd] at h; cases h
    | ok p =>
      rw [hd] at h
      simp only [bind, Except.bind] at h
      split at h
      · cases h; exact codeDigits_rest_length hd
      · cases h
  all_goals cases h
  all_goals exact Nat.le_refl _

theorem escape_bump_rest_length {stop : Stop} {c last : Cursor} {cs : List Char} {ch : Char}
    {rest : List Char} (hc : c.rest = ch :: rest) (he : escape stop c.bump = .ok (cs, last)) :
    last.bump.rest.length < c.rest.length := by
  have := escape_rest_length he
  simp [hc] at this ⊢
  omega

/-! ## Stretches -/

/-- The characters up to `stop`, escapes replaced; the cursor ends on the stop. -/
def stretch (stop : Stop) (c : Cursor) : Except Fault (List Char × Cursor) :=
  match hc : c.rest with
  | [] => if stop.atEnd then .ok ([], c) else .error (c.fault (.unfinished stop))
  | ch :: _ =>
    if stop.has ch then .ok ([], c)
    else if ch = '\\' then
      match he : escape stop c.bump with
      | .error f => .error f
      | .ok (cs, last) =>
        have : last.bump.rest.length < c.rest.length := escape_bump_rest_length hc he
        (stretch stop last.bump).map fun r => (cs ++ r.1, r.2)
    else
      have : c.bump.rest.length < c.rest.length := Cursor.bump_rest_length_lt hc
      (stretch stop c.bump).map fun r => (ch :: r.1, r.2)
termination_by c.rest.length
decreasing_by all_goals assumption

theorem stretch_rest_length {stop : Stop} {c last : Cursor} {cs : List Char}
    (h : stretch stop c = .ok (cs, last)) : last.rest.length ≤ c.rest.length := by
  fun_induction stretch stop c generalizing cs with
  | case1 c hc hend => cases h; simp [hc]
  | case2 => cases h
  | case3 c ch r hc hstop => cases h; exact Nat.le_refl _
  | case4 => cases h
  | case5 c r es mid hlt hc hstop he ih =>
    cases hs : stretch stop mid.bump with
    | error e => rw [hs] at h; cases h
    | ok p =>
      rw [hs] at h
      cases h
      have := ih hs
      omega
  | case6 c ch r hc hstop hne hlt ih =>
    cases hs : stretch stop c.bump with
    | error e => rw [hs] at h; cases h
    | ok p =>
      rw [hs] at h
      cases h
      have := ih hs
      omega

/-- The value after the sign the cursor stands on.  A quoted part at its beginning is
read first, and whatever follows it on the line is appended. -/
def value (c : Cursor) : Except Fault (String × Cursor) := do
  let here := c.bump.skipWhile fun ch => Text.isBlank ch && !Stop.lineEnd.has ch
  let finish (cs : List Char) : String := String.ofList (Text.stripList cs)
  match here.rest with
  | [] => .ok ("", here)
  | q :: _ =>
    if q = '"' ∨ q = '\'' then
      let (inner, close) ← stretch (.quote q) here.bump
      let (tail, last) ← stretch .lineEnd close.bump
      .ok (finish (inner ++ tail), last)
    else
      let (cs, last) ← stretch .lineEnd here
      .ok (finish cs, last)

theorem value_rest_length {c last : Cursor} {v : String} (h : value c = .ok (v, last)) :
    last.rest.length ≤ c.rest.length - 1 := by
  have hskip : ∀ p : Char → Bool, (c.bump.skipWhile p).rest.length ≤ c.rest.length - 1 := by
    intro p
    have := (List.dropWhile_suffix (l := c.rest.tail) p).length_le
    simp only [Cursor.skipWhile_rest, Cursor.bump_rest, List.length_tail] at this ⊢
    omega
  unfold value at h
  simp only at h
  split at h
  · cases h; exact hskip _
  · split at h
    · cases hq : stretch (.quote _) (Cursor.bump (c.bump.skipWhile fun ch =>
          Text.isBlank ch && !Stop.lineEnd.has ch)) with
      | error e => rw [hq] at h; cases h
      | ok p =>
        rw [hq] at h
        simp only [bind, Except.bind] at h
        cases hl : stretch .lineEnd p.2.bump with
        | error e => rw [hl] at h; cases h
        | ok r =>
          rw [hl] at h
          cases h
          have h1 := stretch_rest_length hq
          have h2 := stretch_rest_length hl
          have h3 := hskip fun ch => Text.isBlank ch && !Stop.lineEnd.has ch
          simp only [Cursor.bump_rest, List.length_tail] at h1 h2
          omega
    · cases hl : stretch .lineEnd (c.bump.skipWhile fun ch =>
          Text.isBlank ch && !Stop.lineEnd.has ch) with
      | error e => rw [hl] at h; cases h
      | ok r =>
        rw [hl] at h
        cases h
        exact Nat.le_trans (stretch_rest_length hl) (hskip _)

/-! ## Documents -/

/-- What a settings file says, in the order of its text. -/
structure Document where
  /-- Keys and values before the first heading. -/
  entries : List (String × String)
  /-- Every heading, with the keys and values below it. -/
  sections : List (String × List (String × String))
  deriving DecidableEq, Repr

namespace Document

/-- The document that has one more entry at its front. -/
def withEntry (key value : String) (d : Document) : Document :=
  { d with entries := (key, value) :: d.entries }

/-- The document that has one more heading at its front; the entries up to the next
heading belong to its section. -/
def withHeading (name : String) (d : Document) : Document :=
  ⟨[], (name, d.entries) :: d.sections⟩

/-- The cursor behind the blanks. -/
def afterBlanks (c : Cursor) : Cursor := c.skipWhile Text.isBlank

theorem afterBlanks_rest_length (c : Cursor) :
    (afterBlanks c).rest.length ≤ c.rest.length := by
  simpa [afterBlanks] using (List.dropWhile_suffix (l := c.rest) Text.isBlank).length_le

/-- The rest of a document from the cursor on, which does not stand on a blank. -/
def readFrom (c : Cursor) : Except Fault Document :=
  match hc : c.rest with
  | [] => .ok ⟨[], []⟩
  | ch :: _ =>
    if ch = ';' ∨ ch = '#' then
      if 1 < c.column then .error (c.fault .inlineComment)
      else
        have : (afterBlanks c.skipLine).rest.length < c.rest.length := by
          have h1 := afterBlanks_rest_length c.skipLine
          have h2 := (List.dropWhile_suffix (l := c.rest) (· != '\n')).length_le
          simp only [Cursor.skipLine, Cursor.bump_rest, Cursor.skipWhile_rest,
            List.length_tail, hc, List.length_cons] at h1 h2 ⊢
          omega
        readFrom (afterBlanks c.skipLine)
    else if ch = '[' then
      match hs : stretch .bracket c.bump with
      | .error f => .error f
      | .ok (name, last) =>
        have : (afterBlanks last.bump).rest.length < c.rest.length := by
          have h1 := afterBlanks_rest_length last.bump
          have h2 := stretch_rest_length hs
          simp only [Cursor.bump_rest, List.length_tail, hc, List.length_cons] at h1 h2 ⊢
          omega
        (readFrom (afterBlanks last.bump)).map
          (withHeading (String.ofList (Text.stripList name)))
    else
      match hk : stretch .sign c with
      | .error f => .error f
      | .ok (raw, sign) =>
        let key := String.ofList (Text.stripList raw)
        if key = "" then .error (sign.fault .missingKey)
        else match hv : value sign with
          | .error f => .error f
          | .ok (v, last) =>
            have : (afterBlanks last).rest.length < c.rest.length := by
              have h1 := afterBlanks_rest_length last
              have h2 := value_rest_length hv
              have h3 := stretch_rest_length hk
              simp only [hc, List.length_cons] at h3 ⊢
              omega
            (readFrom (afterBlanks last)).map (withEntry key v)
termination_by c.rest.length
decreasing_by all_goals assumption

/-- What a settings file says. -/
def read (text : String) : Except Fault Document :=
  readFrom (afterBlanks (Cursor.start text.toList))

end Document

end LineService.StandIn
