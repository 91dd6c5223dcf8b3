import LineService.Proofs.Settings.Plain
import LineService.Proofs.Text.Ends
import LineService.StandIn.Document
import Mathlib.Logic.Function.Iterate

/-!
# Reading plain settings files

The library that stands in reads a file by a cursor.  Row by row, the cursor comes from the
beginning of a line to its end, and what it passes is what the row says (`passes_row`): nothing, or
a key with its value without the blanks around it.  So a whole file says what its rows do
(`read_rows`).

What carries this from one row to the next is the column.  On a line feed it is 0, wherever the
cursor came from (`Placed`), and so on the first character of a line it is 1, where a comment may
begin.
-/

set_option autoImplicit false

namespace LineService

namespace StandIn

open Settings (PlainName PlainValue Row charsOf given isBlank_of_wordChar ne_of_wordChar)

/-! ## Moving a cursor -/

namespace Cursor

variable {c : Cursor} {ch : Char} {cs rest : List Char} {p : Char → Bool}

/-- On a line feed the column is 0. -/
def Placed (c : Cursor) : Prop := ∀ rest, c.rest = '\n' :: rest → c.column = 0

theorem placed_moveOnto (line column : Nat) (rest : List Char) :
    (moveOnto line column rest).Placed := by
  intro more feed
  rw [moveOnto_rest] at feed
  rw [feed, moveOnto, if_pos rfl]

theorem placed_bump (c : Cursor) : c.bump.Placed := placed_moveOnto _ _ _

theorem Placed.iterate (placed : c.Placed) (n : Nat) : (bump^[n] c).Placed := by
  cases n with
  | zero => exact placed
  | succ n => rw [Function.iterate_succ_apply']; exact placed_bump _

theorem iterate_rest (placed : c.rest = cs ++ rest) : (bump^[cs.length] c).rest = rest := by
  induction cs generalizing c with
  | nil => exact placed
  | cons ch cs ih =>
      rw [List.length_cons, Function.iterate_succ_apply]
      exact ih (by rw [bump_rest, placed]; rfl)

/-- The line behind a line feed begins with its first character in column 1. -/
theorem bump_of_feed (placed : c.Placed) (feed : c.rest = '\n' :: rest) :
    c.bump = moveOnto c.line 0 rest := by
  rw [bump, placed rest feed, feed, List.tail_cons]

theorem skipWhile_of_pos (here : c.rest = ch :: rest) (skip : p ch = true) :
    c.skipWhile p = c.bump.skipWhile p := by
  obtain ⟨_, line, column⟩ := c
  cases here
  rw [skipWhile]
  exact if_pos skip

theorem skipWhile_of_stop (stop : ∀ ch, c.rest.head? = some ch → p ch = false) :
    c.skipWhile p = c := by
  obtain ⟨_ | ⟨ch, rest⟩, line, column⟩ := c
  · rw [skipWhile]
  · rw [skipWhile]
    refine if_neg ?_
    rw [stop ch rfl]
    exact Bool.false_ne_true

/-- Characters to be skipped are moved past one by one. -/
theorem skipWhile_append (here : c.rest = cs ++ rest) (skip : ∀ ch ∈ cs, p ch = true) :
    c.skipWhile p = (bump^[cs.length] c).skipWhile p := by
  induction cs generalizing c with
  | nil => rfl
  | cons ch cs ih =>
      rw [List.forall_mem_cons] at skip
      rw [skipWhile_of_pos here skip.1, List.length_cons, Function.iterate_succ_apply]
      exact ih (by rw [bump_rest, here]; rfl) skip.2

end Cursor

/-! ## Stretches and values without escapes -/

variable {c : Cursor} {cs rest : List Char} {stop : Stop}

/-- What a row may be followed by. -/
def LineEnds (rest : List Char) : Prop := rest = [] ∨ ∃ more, rest = '\n' :: more

theorem LineEnds.stops (ends : LineEnds rest) : (rest = [] ∧ Stop.lineEnd.atEnd = true) ∨
    ∃ ch more, rest = ch :: more ∧ Stop.lineEnd.has ch = true := by
  obtain rfl | ⟨more, rfl⟩ := ends
  · exact .inl ⟨rfl, rfl⟩
  · exact .inr ⟨_, more, rfl, rfl⟩

/-- What is next on a line is one of its characters or the end of the line. -/
theorem LineEnds.head_append {P : Char → Prop} (ends : LineEnds rest)
    (first : ∀ ch, cs.head? = some ch → P ch) (feed : P '\n') :
    ∀ ch, (cs ++ rest).head? = some ch → P ch := by
  intro ch head
  cases cs with
  | cons _ _ => exact first ch head
  | nil =>
      obtain rfl | ⟨more, rfl⟩ := ends
      · cases head
      · cases head
        exact feed

theorem stretch_of_stop {ch : Char} (here : c.rest = ch :: rest) (stops : stop.has ch = true) :
    stretch stop c = .ok ([], c) := by
  obtain ⟨_, line, column⟩ := c
  cases here
  rw [stretch]
  exact if_pos stops

theorem stretch_of_end (ended : c.rest = []) (atEnd : stop.atEnd = true) :
    stretch stop c = .ok ([], c) := by
  obtain ⟨_, line, column⟩ := c
  cases ended
  rw [stretch]
  exact if_pos atEnd

theorem stretch_of_plain {ch : Char} (here : c.rest = ch :: rest) (goesOn : stop.has ch = false)
    (plain : ch ≠ '\\') : stretch stop c = (stretch stop c.bump).map fun r => (ch :: r.1, r.2) := by
  obtain ⟨_, line, column⟩ := c
  cases here
  rw [stretch]
  exact (if_neg (by rw [goesOn]; exact Bool.false_ne_true)).trans (if_neg plain)

/-- Up to its stop, a stretch without backslashes is read as it is. -/
theorem stretch_plain (here : c.rest = cs ++ rest)
    (plain : ∀ ch ∈ cs, stop.has ch = false ∧ ch ≠ '\\')
    (stops : (rest = [] ∧ stop.atEnd = true) ∨ ∃ ch more, rest = ch :: more ∧ stop.has ch = true) :
    stretch stop c = .ok (cs, Cursor.bump^[cs.length] c) := by
  induction cs generalizing c with
  | nil =>
      rcases stops with ⟨ended, atEnd⟩ | ⟨ch, more, next, has⟩
      · exact stretch_of_end (here.trans ended) atEnd
      · exact stretch_of_stop (here.trans next) has
  | cons ch cs ih =>
      rw [List.forall_mem_cons] at plain
      have behind : c.bump.rest = cs ++ rest := by rw [Cursor.bump_rest, here]; rfl
      rw [stretch_of_plain here plain.1.1 plain.1.2, ih behind plain.2]
      rfl

/-- Blanks before a value are skipped, and what follows them is read up to the end of the line. -/
theorem value_of_core {blanks core : List Char} (here : c.rest = '=' :: (blanks ++ (core ++ rest)))
    (blank : ∀ ch ∈ blanks, Text.isBlank ch = true ∧ Stop.lineEnd.has ch = false)
    (plain : ∀ ch ∈ core, Stop.lineEnd.has ch = false ∧ ch ≠ '\\')
    (first : ∀ ch, core.head? = some ch → Text.isBlank ch = false ∧ ch ≠ '"' ∧ ch ≠ '\'')
    (ends : LineEnds rest) :
    ∃ last, value c = .ok (String.ofList (Text.stripList core), last) ∧ last.rest = rest ∧
      last.Placed := by
  have behind : c.bump.rest = blanks ++ (core ++ rest) := by rw [Cursor.bump_rest, here]; rfl
  have atCore := Cursor.iterate_rest behind
  have placed := (Cursor.placed_bump c).iterate blanks.length
  have skipped : c.bump.skipWhile (fun ch => Text.isBlank ch && !Stop.lineEnd.has ch) =
      Cursor.bump^[blanks.length] c.bump := by
    rw [Cursor.skipWhile_append behind (fun ch member => by simp [blank ch member]),
      Cursor.skipWhile_of_stop]
    rw [atCore]
    exact ends.head_append (fun ch head => by rw [(first ch head).1, Bool.false_and]) rfl
  generalize Cursor.bump^[blanks.length] c.bump = d at atCore placed skipped
  have read := stretch_plain atCore plain ends.stops
  refine ⟨Cursor.bump^[core.length] d, ?_, Cursor.iterate_rest atCore, placed.iterate _⟩
  rw [value, skipped]
  dsimp only
  split
  · rename_i ended
    obtain ⟨rfl, -⟩ := List.append_eq_nil_iff.mp (atCore.symm.trans ended)
    rfl
  · rename_i q more next
    have bare : q ≠ '"' ∧ q ≠ '\'' := ends.head_append (fun ch head => (first ch head).2)
      (by decide) q (congrArg List.head? (atCore.symm.trans next))
    rw [if_neg (not_or.mpr bare), read]
    rfl

/-- **A plain value is read up to the end of its line**, and blanks around it are left out. -/
theorem value_plain (v : PlainValue) (here : c.rest = '=' :: (v.text.toList ++ rest))
    (ends : LineEnds rest) :
    ∃ last, value c = .ok (Text.strip v.text, last) ∧ last.rest = rest ∧ last.Placed := by
  have inLine {ch : Char} (member : ch ∈ v.text.toList) : Stop.lineEnd.has ch = false := by
    have noFeed : ch ≠ '\n' := fun same => v.line.1 (same ▸ member)
    have noReturn : ch ≠ '\r' := fun same => v.line.2.1 (same ▸ member)
    simp [Stop.has, noFeed, noReturn]
  have same : Text.strip v.text =
      String.ofList (Text.stripList (v.text.toList.dropWhile Text.isBlank)) := by
    rw [Text.strip, Text.stripList, Text.stripList, List.dropWhile_idempotent]
  rw [same]
  have parted : c.rest = '=' :: (v.text.toList.takeWhile Text.isBlank ++
      (v.text.toList.dropWhile Text.isBlank ++ rest)) := by
    rw [here, ← List.append_assoc, List.takeWhile_append_dropWhile]
  refine value_of_core parted ?blank ?plain ?first ends
  case blank =>
    intro ch member
    exact ⟨List.mem_takeWhile_imp member, inLine ((List.takeWhile_prefix _).subset member)⟩
  case plain =>
    intro ch member
    have member := (List.dropWhile_suffix Text.isBlank).subset member
    exact ⟨inLine member, fun same => v.line.2.2 (same ▸ member)⟩
  case first =>
    intro ch head
    have kept := List.head?_dropWhile_not Text.isBlank v.text.toList
    rw [head] at kept
    exact ⟨by simpa using kept, fun same => v.bare.1 (same ▸ head),
      fun same => v.bare.2 (same ▸ head)⟩

/-! ## Documents -/

/-- Spaces behind a name do not belong to it. -/
theorem stripList_spaces (key : PlainName) (spaces : Nat) :
    Text.stripList (key.text.toList ++ List.replicate spaces ' ') = key.text.toList := by
  change Text.stripList ([] ++ key.text.toList ++ List.replicate spaces ' ') = key.text.toList
  refine Text.stripList_append (List.forall_mem_nil _) ?first ?last ?spaces
  case first => exact fun ch head => isBlank_of_wordChar (key.plain ch (List.mem_of_head? head))
  case last => exact fun ch last => isBlank_of_wordChar (key.plain ch (List.mem_of_getLast? last))
  case spaces =>
    intro ch member
    rw [List.eq_of_mem_replicate member]
    rfl

/-- A name and spaces behind it are read as they are, up to the sign. -/
theorem plain_spaces (key : PlainName) (spaces : Nat) :
    ∀ ch ∈ key.text.toList ++ List.replicate spaces ' ',
      Stop.sign.has ch = false ∧ ch ≠ '\\' := by
  intro ch member
  rcases List.mem_append.mp member with member | member
  · have word := key.plain ch member
    have signs : ch ≠ '=' ∧ ch ≠ ':' := ⟨ne_of_wordChar word rfl, ne_of_wordChar word rfl⟩
    exact ⟨by simp [Stop.has, signs], ne_of_wordChar word rfl⟩
  · rw [List.eq_of_mem_replicate member]
    decide

namespace Document

/-- What a document says with a row before it. -/
def withRow (r : Row) (d : Document) : Document :=
  match r.gives? with
  | some e => d.withEntry e.1 e.2
  | none => d

theorem afterBlanks_of_stop (stop : ∀ ch, c.rest.head? = some ch → Text.isBlank ch = false) :
    afterBlanks c = c := Cursor.skipWhile_of_stop stop

/-- The end of a line is a blank like others. -/
theorem afterBlanks_of_feed {more : List Char} (placed : c.Placed) (feed : c.rest = '\n' :: more) :
    afterBlanks c = afterBlanks (Cursor.moveOnto c.line 0 more) := by
  rw [afterBlanks, Cursor.skipWhile_of_pos feed rfl, Cursor.bump_of_feed placed feed, afterBlanks]

theorem readFrom_nil (ended : c.rest = []) : readFrom c = .ok ⟨[], []⟩ := by
  obtain ⟨_, line, column⟩ := c
  cases ended
  rw [readFrom]

theorem readFrom_comment {ch : Char} (here : c.rest = ch :: rest) (sign : ch = ';' ∨ ch = '#')
    (first : c.column ≤ 1) : readFrom c = readFrom (afterBlanks c.skipLine) := by
  obtain ⟨_, line, column⟩ := c
  cases here
  rw [readFrom]
  exact (if_pos sign).trans (if_neg (Nat.not_lt.mpr first))

theorem readFrom_entry {ch : Char} {raw : List Char} {sign last : Cursor} {v : String}
    (here : c.rest = ch :: rest) (plain : ch ≠ ';' ∧ ch ≠ '#' ∧ ch ≠ '[')
    (key : stretch .sign c = .ok (raw, sign)) (nonempty : Text.stripList raw ≠ [])
    (gives : value sign = .ok (v, last)) : readFrom c =
      (readFrom (afterBlanks last)).map (withEntry (String.ofList (Text.stripList raw)) v) := by
  have named : String.ofList (Text.stripList raw) ≠ "" := by
    rw [ne_eq, ← String.toList_inj, String.toList_ofList]
    exact nonempty
  obtain ⟨_, line, column⟩ := c
  cases here
  rw [readFrom]
  refine (if_neg (by simp [plain])).trans ((if_neg plain.2.2).trans ?_)
  dsimp only
  rw [key]
  dsimp only
  rw [if_neg named, gives]

/-- Nothing is said between the end of a line and the beginning of the next one. -/
theorem readFrom_bump (ends : LineEnds c.rest) (placed : c.Placed) :
    readFrom (afterBlanks c.bump) = readFrom (afterBlanks c) := by
  obtain ended | ⟨more, feed⟩ := ends
  · have here : (afterBlanks c).rest = [] := by
      rw [afterBlanks, Cursor.skipWhile_rest, ended]
      rfl
    have behind : (afterBlanks c.bump).rest = [] := by
      rw [afterBlanks, Cursor.skipWhile_rest, Cursor.bump_rest, ended]
      rfl
    rw [readFrom_nil here, readFrom_nil behind]
  · rw [afterBlanks_of_feed placed feed, Cursor.bump_of_feed placed feed]

/-- A line without a line feed is skipped to its end, and one character further. -/
theorem skipLine_of_line (here : c.rest = cs ++ rest) (line : '\n' ∉ cs) (ends : LineEnds rest) :
    c.skipLine = (Cursor.bump^[cs.length] c).bump := by
  have skip : ∀ ch ∈ cs, (ch != '\n') = true := fun ch member =>
    bne_iff_ne.mpr fun feed => line (feed ▸ member)
  rw [Cursor.skipLine, Cursor.skipWhile_append here skip, Cursor.skipWhile_of_stop]
  rw [Cursor.iterate_rest here, ← List.nil_append rest]
  exact ends.head_append nofun rfl

/-! ## Row by row -/

/-- A line, read from its first character to its end, makes this change in what the rest of the
document says. -/
def Passes (line : List Char) (change : Document → Document) : Prop :=
  ∀ (number : Nat) (rest : List Char), LineEnds rest → ∃ c : Cursor, c.rest = rest ∧ c.Placed ∧
    readFrom (afterBlanks (Cursor.moveOnto number 0 (line ++ rest))) =
      (readFrom (afterBlanks c)).map change

theorem map_id (d : Except Fault Document) : d.map id = d := by cases d <;> rfl

/-- Blanks are skipped with those that follow them. -/
theorem passes_blank (blank : ∀ ch ∈ cs, Text.isBlank ch = true) : Passes cs id := by
  intro number rest _
  have here := Cursor.moveOnto_rest number 0 (cs ++ rest)
  refine ⟨_, Cursor.iterate_rest here, (Cursor.placed_moveOnto _ _ _).iterate _, ?_⟩
  rw [map_id, afterBlanks, Cursor.skipWhile_append here blank, afterBlanks]

/-- A comment is skipped; the line feed at its end may be skipped with it or later. -/
theorem passes_comment {sign : Char} (signs : sign = '#' ∨ sign = ';') (line : '\n' ∉ cs) :
    Passes (sign :: cs) id := by
  intro number rest ends
  have noFeed : sign ≠ '\n' := by obtain rfl | rfl := signs <;> decide
  have here := Cursor.moveOnto_rest number 0 (sign :: cs ++ rest)
  -- the sign opens a comment because it stands in the first column
  have first : (Cursor.moveOnto number 0 (sign :: cs ++ rest)).column ≤ 1 := by
    rw [List.cons_append, Cursor.moveOnto, if_neg noFeed]
  have placed := Cursor.placed_moveOnto number 0 (sign :: cs ++ rest)
  generalize Cursor.moveOnto number 0 (sign :: cs ++ rest) = c at here first placed
  have behind := Cursor.iterate_rest here
  refine ⟨_, behind, placed.iterate _, ?_⟩
  rw [map_id, afterBlanks_of_stop, readFrom_comment here signs.symm first,
    skipLine_of_line here (List.not_mem_cons_of_ne_of_not_mem noFeed.symm line) ends,
    readFrom_bump (behind.symm ▸ ends) (placed.iterate _)]
  intro ch head
  rw [here] at head
  cases head
  obtain rfl | rfl := signs <;> rfl

/-- A key is read up to its sign, and its value from there on. -/
theorem passes_entry (key : PlainName) (spaces : Nat) (v : PlainValue) :
    Passes (key.text.toList ++ List.replicate spaces ' ' ++ '=' :: v.text.toList)
      (withEntry key.text (Text.strip v.text)) := by
  intro number rest ends
  obtain ⟨first, more, characters, word⟩ := key.exists_first
  have here := Cursor.moveOnto_rest number 0
    (key.text.toList ++ List.replicate spaces ' ' ++ '=' :: v.text.toList ++ rest)
  generalize Cursor.moveOnto number 0 _ = c at here
  rw [List.append_assoc, List.cons_append] at here
  have read : stretch .sign c = _ :=
    stretch_plain here (plain_spaces key spaces) (.inr ⟨'=', _, rfl, rfl⟩)
  obtain ⟨last, gives, behind, placed⟩ := value_plain v (Cursor.iterate_rest here) ends
  refine ⟨last, behind, placed, ?_⟩
  have begins := here
  rw [characters, List.cons_append, List.cons_append] at begins
  have named : Text.stripList (key.text.toList ++ List.replicate spaces ' ') ≠ [] := by
    rw [stripList_spaces, characters]
    exact List.cons_ne_nil _ _
  rw [afterBlanks_of_stop, readFrom_entry begins ?_ read named gives, stripList_spaces,
    String.ofList_toList]
  · exact ⟨ne_of_wordChar word rfl, ne_of_wordChar word rfl, ne_of_wordChar word rfl⟩
  · intro ch head
    rw [begins] at head
    cases head
    exact isBlank_of_wordChar word

/-- **From the beginning of a line to its end, a document says what the row does.** -/
theorem passes_row (r : Row) : Passes r.line (withRow r) := by
  cases r with
  | blank text blank =>
      refine passes_blank fun ch member => ?_
      obtain rfl | rfl := blank ch member <;> rfl
  | comment sign signs text line => exact passes_comment signs line
  | entry key spaces v => exact passes_entry key spaces v

theorem withRow_entries (r : Row) (entries : List (String × String)) :
    withRow r ⟨entries, []⟩ = ⟨r.gives?.toList ++ entries, []⟩ := by
  cases r <;> rfl

theorem readFrom_rows (rows : List Row) (number : Nat) :
    readFrom (afterBlanks (Cursor.moveOnto number 0 (charsOf rows))) =
      .ok ⟨given rows, []⟩ := by
  induction rows generalizing number with
  | nil => exact readFrom_nil (by simp [afterBlanks, charsOf])
  | cons r rows ih =>
      have entries :
          given (r :: rows) = r.gives?.toList ++ given rows := by
        rw [given, List.filterMap_cons]
        cases r.gives? <;> rfl
      rw [entries, ← withRow_entries]
      cases rows with
      | nil =>
          obtain ⟨c, ended, -, passed⟩ := passes_row r number [] (.inl rfl)
          have atEnd : (afterBlanks c).rest = [] := by simp [afterBlanks, ended]
          rw [charsOf, List.map_singleton, List.intercalate_singleton, ← List.append_nil r.line,
            passed, readFrom_nil atEnd]
          rfl
      | cons next rows =>
          have lines : charsOf (r :: next :: rows) = r.line ++ '\n' :: charsOf (next :: rows) := by
            rw [charsOf, charsOf, List.map_cons, List.map_cons, List.intercalate_cons_cons,
              List.append_assoc]
            rfl
          obtain ⟨c, feed, placed, passed⟩ :=
            passes_row r number ('\n' :: charsOf (next :: rows)) (.inr ⟨_, rfl⟩)
          rw [lines, passed, afterBlanks_of_feed placed feed, ih]
          rfl

/-- **A plain settings file says what its rows say.** -/
theorem read_rows (rows : List Row) :
    read (String.ofList (charsOf rows)) = .ok ⟨given rows, []⟩ := by
  rw [read, Cursor.start, String.toList_ofList]
  exact readFrom_rows rows 0

end Document

end StandIn

end LineService
