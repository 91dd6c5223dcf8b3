import LineService.Proofs.Line.Calls

/-!
# The texts of a stream

`Reads bytes texts` says that a reader who asks for line after line until the end is found comes
to these texts, and to no trouble.

A line is decoded by itself, but nothing is lost by that.  A line feed is a byte of its own
whatever stands before it, so the whole stream is decoded to what its lines are decoded to, with
line feeds between them (`decodeLossy_append`), and no line takes part of the next one with it.
Hence decoding everything and cutting the text at its line feeds gives the same texts as reading
(`reads_iff_decoded`), as long as no line is too long.

The number of lines that are read off a stream of whole lines is the number of its line feeds
(`Reads.length_eq`).
-/

set_option autoImplicit false

namespace LineService.Line

variable {bytes rest a : List UInt8} {text : String} {texts : List String}

/-! ## Asking until the end is found -/

/-- Asking for line after line until the end is found comes to these texts. -/
inductive Reads : (bytes : List UInt8) → (texts : List String) → Prop where
  | finished {bytes rest : List UInt8} (ended : next bytes = (.finished, rest)) : Reads bytes []
  | line {bytes rest : List UInt8} {text : String} {size : Nat} {texts : List String}
      (read : next bytes = (.line text size, rest)) (later : Reads rest texts) :
      Reads bytes (text :: texts)

/-- The text of a reading that is a line. -/
def Reading.text? : Reading → Option String
  | .line text _ => some text
  | .finished | .trouble _ => none

theorem reads_nil : Reads [] [] := .finished rfl

theorem ne_nil_of_line {size : Nat} (read : next bytes = (.line text size, rest)) :
    bytes ≠ [] := by
  rintro rfl
  cases read

/-- The texts are those of the readings of the whole stream. -/
theorem Reads.map_all (reads : Reads bytes texts) :
    (all bytes).map Reading.text? = texts.map some := by
  induction reads with
  | finished ended =>
      rw [next_eq_finished_iff.mp (congrArg Prod.fst ended), all_nil]
      rfl
  | line read later ih =>
      rw [all_of_ne_nil (ne_nil_of_line read), read, List.map_cons, List.map_cons, ih]
      rfl

theorem reads_of_map_all (tells : (all bytes).map Reading.text? = texts.map some) :
    Reads bytes texts := by
  induction texts generalizing bytes with
  | nil =>
      by_cases empty : bytes = []
      · exact empty ▸ reads_nil
      · rw [all_of_ne_nil empty] at tells
        cases tells
  | cons text texts ih =>
      have nonempty : bytes ≠ [] := by
        rintro rfl
        rw [all_nil] at tells
        cases tells
      rw [all_of_ne_nil nonempty, List.map_cons, List.map_cons, List.cons.injEq] at tells
      cases read : (next bytes).1 with
      | line text' size =>
          rw [read] at tells
          cases tells.1
          exact .line (Prod.ext read rfl) (ih tells.2)
      | finished | trouble =>
          rw [read] at tells
          cases tells.1

/-- **What is read until the end is found is what the whole stream says.** -/
theorem reads_iff : Reads bytes texts ↔ (all bytes).map Reading.text? = texts.map some :=
  ⟨Reads.map_all, reads_of_map_all⟩

theorem Reads.unique {others : List String} (reads : Reads bytes texts)
    (other : Reads bytes others) : others = texts := by
  refine (List.map_inj_right fun _ _ => Option.some.inj).mp ?_
  rw [← reads.map_all, ← other.map_all]

/-- Whole lines are read before what follows them. -/
theorem Reads.append {others : List String} (whole : Whole a) (reads : Reads a texts)
    (later : Reads rest others) : Reads (a ++ rest) (texts ++ others) := by
  rw [reads_iff, whole.all_append, List.map_append, List.map_append, reads.map_all, later.map_all]

/-- A stream that can be read is cut behind its first line feed or not at all. -/
theorem Reads.line_of_cuts {piece : List UInt8} (reads : Reads bytes texts)
    (cuts : Cuts limit bytes piece rest) (nonempty : bytes ≠ []) :
    ∃ size text later, readPiece piece = .line text size ∧ texts = text :: later ∧
      Reads rest later := by
  cases reads with
  | finished ended => exact absurd (next_eq_finished_iff.mp (congrArg Prod.fst ended)) nonempty
  | line read later =>
      rw [next, cuts.cut_eq, Prod.mk.injEq] at read
      obtain ⟨tells, rfl⟩ := read
      exact ⟨_, _, _, tells, rfl, later⟩

/-- **As many lines are read as there are line feeds**, where the stream does not end within a
line. -/
theorem Reads.length_eq (reads : Reads bytes texts) (whole : Whole bytes) :
    texts.length = bytes.count terminator := by
  induction length : bytes.length using Nat.strongRecOn generalizing bytes texts with
  | ind length ih =>
      subst length
      by_cases empty : bytes = []
      · subst empty
        obtain rfl : texts = [] := reads_nil.unique reads
        rfl
      obtain ⟨piece, rest, cuts⟩ : ∃ piece rest, Cuts limit bytes piece rest := ⟨_, _, cuts _ _⟩
      obtain ⟨size, text, later, tells, rfl, others⟩ := reads.line_of_cuts cuts empty
      cases cuts with
      | @ended a rest free short =>
          have fewer : rest.length < (a ++ terminator :: rest).length := by simp; omega
          have left := ih _ fewer others (whole.suffix ⟨a ++ [terminator], by simp⟩) rfl
          rw [List.length_cons, left, List.count_append, List.count_eq_zero_of_not_mem free,
            List.count_cons_self, Nat.zero_add]
      | full rest free full =>
          rw [readPiece_full free full] at tells
          cases tells
      | whole free short =>
          obtain ⟨front, c, rfl⟩ := (List.eq_nil_or_concat bytes).resolve_left empty
          have last := whole c (by simp)
          exact absurd (by simp [last]) free

/-! ## Decoding line by line and all at once -/

/-- **Every line is decoded by itself**, however broken the one before it is. -/
theorem decodeLossy_append (a rest : List UInt8) :
    Utf8.decodeLossy (a ++ terminator :: rest) =
      Utf8.decodeLossy a ++ "\n" ++ Utf8.decodeLossy rest := by
  have ascii : terminator.toNat < 0x80 := by decide
  have feed : Utf8.Piece.lossy (.scalar (Char.ofNat terminator.toNat)) = '\n' := rfl
  rw [← String.toList_inj, Utf8.toList_decodeLossy, Utf8.pieces_append_ascii a rest ascii,
    List.map_append, List.map_cons, feed]
  simp

/-- Bytes stand for something. -/
theorem decodeLossy_ne_nil (nonempty : bytes ≠ []) : (Utf8.decodeLossy bytes).toList ≠ [] := by
  have within (p : Utf8.Partial) (bs : List UInt8) : Utf8.piecesFrom (.some p) bs ≠ [] := by
    induction bs generalizing p with
    | nil => simp [Utf8.piecesFrom]
    | cons b bs ih =>
        simp only [Utf8.piecesFrom, Utf8.step]
        split
        · split
          · simp
          · simpa using ih _
        · simp
  rw [Utf8.toList_decodeLossy, ne_eq, List.map_eq_nil_iff]
  cases bytes with
  | nil => exact absurd rfl nonempty
  | cons b bs =>
      simp only [Utf8.pieces, Utf8.piecesFrom, Utf8.step, Utf8.begin]
      split
      · simp
      · split
        · simpa using within _ _
        · simp

/-- What stands between line feeds.  Nothing behind the last one is no part. -/
def parts (cs : List Char) : List (List Char) :=
  if (cs.splitOn '\n').getLast? = some [] then (cs.splitOn '\n').dropLast else cs.splitOn '\n'

/-- A text cut at its line feeds. -/
def linesOf (text : String) : List String := (parts text.toList).map String.ofList

/-- A text without the carriage returns at its end. -/
def withoutReturns (text : String) : String :=
  String.ofList (Text.dropEnd (· == '\r') text.toList)

theorem parts_of_free {cs : List Char} (free : '\n' ∉ cs) :
    parts cs = if cs = [] then [] else [cs] := by
  rw [parts, List.splitOn_eq_singleton free]
  by_cases empty : cs = [] <;> simp [empty]

theorem parts_append {cs ds : List Char} (free : '\n' ∉ cs) :
    parts (cs ++ '\n' :: ds) = cs :: parts ds := by
  have nonempty := List.splitOn_ne_nil '\n' ds
  rw [parts, parts, List.splitOn_append_cons_self_of_not_mem free, List.getLast?_cons,
    List.dropLast_cons_of_ne_nil nonempty, List.getLast?_eq_some_getLast nonempty, Option.getD_some]
  split <;> rfl

/-- Where there is no line feed, only carriage returns are left to trim. -/
theorem trim_eq_withoutReturns (free : '\n' ∉ text.toList) : trim text = withoutReturns text := by
  have same {cs : List Char} (free : '\n' ∉ cs) :
      cs.dropWhile isTerminator = cs.dropWhile (· == '\r') := by
    induction cs with
    | nil => rfl
    | cons c cs ih =>
        rw [List.mem_cons, not_or] at free
        have here : isTerminator c = (c == '\r') := by
          simp [isTerminator, Ne.symm free.1]
        rw [List.dropWhile_cons, List.dropWhile_cons, here, ih free.2]
  rw [trim, withoutReturns, Text.dropEnd, Text.dropEnd, same (by simpa using free)]

theorem not_mem_decodeLossy (free : terminator ∉ a) : '\n' ∉ (Utf8.decodeLossy a).toList :=
  fun found => free (Utf8.mem_of_mem_decodeLossy found (by decide))

theorem linesOf_append (free : terminator ∉ a) (rest : List UInt8) :
    linesOf (Utf8.decodeLossy (a ++ terminator :: rest)) =
      Utf8.decodeLossy a :: linesOf (Utf8.decodeLossy rest) := by
  have whole : (Utf8.decodeLossy (a ++ terminator :: rest)).toList =
      (Utf8.decodeLossy a).toList ++ '\n' :: (Utf8.decodeLossy rest).toList := by
    rw [decodeLossy_append]
    simp
  rw [linesOf, whole, parts_append (not_mem_decodeLossy free), List.map_cons, String.ofList_toList]
  rfl

theorem linesOf_of_free (nonempty : a ≠ []) (free : terminator ∉ a) :
    linesOf (Utf8.decodeLossy a) = [Utf8.decodeLossy a] := by
  rw [linesOf, parts_of_free (not_mem_decodeLossy free), if_neg (decodeLossy_ne_nil nonempty),
    List.map_singleton, String.ofList_toList]

/-- The parts of a stream between its line feeds are short enough to be lines. -/
def Short (bytes : List UInt8) : Prop :=
  ∀ part ∈ bytes.splitOn terminator, part.length < limit

instance : Decidable (Short bytes) :=
  inferInstanceAs (Decidable (∀ part ∈ bytes.splitOn terminator, part.length < limit))

theorem short_append_iff (free : terminator ∉ a) :
    Short (a ++ terminator :: rest) ↔ a.length < limit ∧ Short rest := by
  rw [Short, List.splitOn_append_cons_self_of_not_mem free, List.forall_mem_cons, Short]

theorem short_iff_of_free (free : terminator ∉ a) : Short a ↔ a.length < limit := by
  rw [Short, List.splitOn_eq_singleton free, List.forall_mem_singleton]

/-- A line that is too long is no short part, wherever it ends. -/
theorem not_short_of_full (free : terminator ∉ a) (full : a.length = limit) :
    ¬ Short (a ++ rest) := by
  intro short
  by_cases feed : terminator ∈ rest
  · obtain ⟨b, later, rfl, before⟩ := List.eq_append_cons_of_mem feed
    rw [← List.append_assoc, short_append_iff (by simp [free, before])] at short
    have long := short.1
    rw [List.length_append] at long
    omega
  · rw [short_iff_of_free (by simp [free, feed]), List.length_append] at short
    omega

/-- A stream that can be read has no part that is too long. -/
theorem Reads.short (reads : Reads bytes texts) : Short bytes := by
  induction reads with
  | finished ended =>
      rw [next_eq_finished_iff.mp (congrArg Prod.fst ended)]
      decide
  | @line bytes rest text size texts read later ih =>
      have frames := next_eq_iff.mp read
      generalize tells : Reading.line text size = r at frames
      cases frames with
      | line rest free short => exact (short_append_iff free).mpr ⟨short, ih⟩
      | last some free short => exact (short_iff_of_free free).mpr short
      | finished | tooLong => cases tells

/-- **Reading gives what decoding everything and cutting it at its line feeds gives.** -/
theorem reads_decoded (short : Short bytes) :
    Reads bytes ((linesOf (Utf8.decodeLossy bytes)).map withoutReturns) := by
  induction length : bytes.length using Nat.strongRecOn generalizing bytes with
  | ind length ih =>
      subst length
      by_cases empty : bytes = []
      · subst empty
        exact reads_nil
      obtain ⟨piece, rest, cuts⟩ : ∃ piece rest, Cuts limit bytes piece rest := ⟨_, _, cuts _ _⟩
      have frames := cuts.frames
      cases cuts with
      | @ended a rest free _ =>
          have fewer : rest.length < (a ++ terminator :: rest).length := by simp; omega
          have later := ih _ fewer ((short_append_iff free).mp short).2 rfl
          rw [readPiece_ended] at frames
          rw [linesOf_append free, List.map_cons,
            ← trim_eq_withoutReturns (not_mem_decodeLossy free)]
          exact .line frames.next_eq later
      | full rest free full => exact absurd short (not_short_of_full free full)
      | whole free less =>
          rw [readPiece_whole empty less] at frames
          rw [linesOf_of_free empty free, List.map_singleton,
            ← trim_eq_withoutReturns (not_mem_decodeLossy free)]
          exact .line frames.next_eq reads_nil

/-- **Lines can be decoded one by one.**

* A stream can be read to its end without trouble exactly if no part between its line feeds is
  too long, and the texts that are read are then those of the whole stream, decoded at once, cut
  at its line feeds and without the carriage returns at their ends.
* Whatever bytes stand before a line feed, broken or not, what follows it is decoded and read as
  it would be by itself.
* The bytes of a text are decoded to the text. -/
theorem decoded_line_by_line (bytes : List UInt8) :
    (∀ texts, Reads bytes texts ↔ (∀ part ∈ bytes.splitOn terminator, part.length < limit) ∧
      texts = (linesOf (Utf8.decodeLossy bytes)).map withoutReturns) ∧
    (∀ before, Utf8.decodeLossy (before ++ terminator :: bytes) =
        Utf8.decodeLossy before ++ "\n" ++ Utf8.decodeLossy bytes ∧
      ∀ texts others, Reads (before ++ [terminator]) texts → Reads bytes others →
        Reads (before ++ terminator :: bytes) (texts ++ others)) ∧
    ∀ text, bytes = Utf8.encode text → Utf8.decodeLossy bytes = text := by
  refine ⟨fun texts => ⟨fun reads => ⟨reads.short, ?_⟩, ?_⟩, fun before => ⟨?_, ?_⟩, ?_⟩
  · exact (reads_decoded reads.short).unique reads
  · rintro ⟨short, rfl⟩
    exact reads_decoded short
  · exact decodeLossy_append before bytes
  · intro texts others first later
    have whole : Whole (before ++ [terminator]) := by simp [Whole]
    simpa using Reads.append whole first later
  · rintro text rfl
    exact Utf8.decodeLossy_encode text

/-- A character that is cut off by a line feed takes nothing of the next line with it. -/
example : (linesOf (Utf8.decodeLossy [0xE2, 0x82, 10, 0xA9, 13, 13, 10, 0x41])).map withoutReturns =
    ["\ufffd", "\ufffd", "A"] := by
  decide

end LineService.Line
