import LineService.Proofs.Line.Arrival
import LineService.Proofs.Line.Trimming
import LineService.Proofs.Text.Decoding

/-!
# Lines as they are written and read

A stream is cut in one of three ways (`Cuts`): behind its first line feed, after as many bytes as
a line may have, or not at all because it ends before that.  `cuts` says that `cut` does this, and
`Cuts.cut_eq` that nothing else would.

A text is the text of a line when it has no line feed and no terminator at its end (`Clean`), and
it fits when its bytes and a line feed are not more than a line may have (`Fits`).  Everything that
is read is such a text (`clean_of_piece`).  Written, it is read again if it fits, whatever follows
(`next_write_append`), and refused if it does not.  So the lines written one after the other are
read as they were written exactly if all of them fit (`all_write_iff`).

A stream that does not end within a line says the same whatever follows it (`Whole.all_append`).
-/

set_option autoImplicit false

namespace LineService.Line

variable {n : Nat} {bytes rest piece a b : List UInt8} {text : String}

/-! ## Where a stream is cut -/

/-- A stream is cut behind its first line feed, or after `n` bytes that contain none, or, where it
ends before that, not at all. -/
inductive Cuts (n : Nat) : (bytes piece rest : List UInt8) → Prop where
  | ended {a : List UInt8} (rest : List UInt8) (free : terminator ∉ a) (short : a.length < n) :
      Cuts n (a ++ terminator :: rest) (a ++ [terminator]) rest
  | full {a : List UInt8} (rest : List UInt8) (free : terminator ∉ a) (full : a.length = n) :
      Cuts n (a ++ rest) a rest
  | whole {a : List UInt8} (free : terminator ∉ a) (short : a.length < n) : Cuts n a a []

theorem Cuts.cons {c : UInt8} (ordinary : c ≠ terminator) (cuts : Cuts n bytes piece rest) :
    Cuts (n + 1) (c :: bytes) (c :: piece) rest := by
  have other {a : List UInt8} (free : terminator ∉ a) : terminator ∉ c :: a := by
    simp [free, Ne.symm ordinary]
  cases cuts with
  | ended _ free short => exact .ended (a := c :: _) _ (other free) (Nat.succ_lt_succ short)
  | full _ free full => exact .full (a := c :: _) _ (other free) (congrArg (· + 1) full)
  | whole free short => exact .whole (other free) (Nat.succ_lt_succ short)

/-- **How `cut` cuts.** -/
theorem cuts (n : Nat) (bytes : List UInt8) : Cuts n bytes (cut n bytes).1 (cut n bytes).2 := by
  fun_induction cut n bytes with
  | case1 rest => exact .full (a := []) rest (by simp) rfl
  | case2 n => exact .whole (by simp) (Nat.succ_pos n)
  | case3 n rest => exact .ended (a := []) rest (by simp) (Nat.succ_pos n)
  | case4 n c rest ordinary tail ih => exact .cons ordinary ih

/-- There is only one way. -/
theorem Cuts.cut_eq (cuts : Cuts n bytes piece rest) : cut n bytes = (piece, rest) := by
  cases cuts with
  | @ended a rest free short =>
      induction a generalizing n with
      | nil =>
          obtain ⟨m, rfl⟩ := Nat.exists_eq_succ_of_ne_zero (Nat.ne_zero_of_lt short)
          simp [cut]
      | cons c a ih =>
          obtain ⟨m, rfl⟩ := Nat.exists_eq_succ_of_ne_zero (Nat.ne_zero_of_lt short)
          rw [List.mem_cons, not_or] at free
          simp [cut, Ne.symm free.1, ih free.2 (Nat.lt_of_succ_lt_succ short)]
  | full rest free full =>
      subst full
      induction piece with
      | nil => rfl
      | cons c a ih =>
          rw [List.mem_cons, not_or] at free
          simp [cut, Ne.symm free.1, ih free.2]
  | whole free short =>
      induction bytes generalizing n with
      | nil => cases n <;> rfl
      | cons c a ih =>
          obtain ⟨m, rfl⟩ := Nat.exists_eq_succ_of_ne_zero (Nat.ne_zero_of_lt short)
          rw [List.mem_cons, not_or] at free
          simp [cut, Ne.symm free.1, ih free.2 (Nat.lt_of_succ_lt_succ short)]

theorem all_of_cuts (cuts : Cuts limit bytes piece rest) (nonempty : bytes ≠ []) :
    all bytes = readPiece piece :: all rest := by
  rw [all_of_ne_nil nonempty, next, cuts.cut_eq]

/-- A piece without a line feed that has not reached the limit is all there is. -/
theorem Cuts.settled_or (cuts : Cuts limit bytes piece rest) :
    settled piece = true ∨ piece = bytes ∧ rest = [] ∧ terminator ∉ bytes := by
  cases cuts with
  | ended => simp [settled]
  | full _ _ full => simp [settled, full]
  | whole free => exact .inr ⟨rfl, rfl, free⟩

/-! ## Streams of whole lines -/

/-- The stream does not end within a line. -/
def Whole (bytes : List UInt8) : Prop := ∀ c, bytes.getLast? = some c → c = terminator

theorem whole_nil : Whole [] := nofun

theorem whole_write_append (text : String) {bytes : List UInt8} (whole : Whole bytes) :
    Whole (write text ++ bytes) := by
  rcases List.eq_nil_or_concat bytes with rfl | ⟨front, c, rfl⟩
  · simp [Whole, write]
  · intro d last
    exact whole d (by simpa [List.getLast?_append] using last)

theorem Whole.suffix (whole : Whole bytes) (suffix : rest <:+ bytes) : Whole rest := by
  obtain ⟨front, rfl⟩ := suffix
  intro c last
  exact whole c (by simp [List.getLast?_append, last])

/-- A stream of whole lines is settled at once. -/
theorem Whole.settled (whole : Whole bytes) (nonempty : bytes ≠ []) :
    settled (cut limit bytes).1 = true := by
  rcases (cuts limit bytes).settled_or with settled | ⟨-, -, free⟩
  · exact settled
  · obtain ⟨front, c, rfl⟩ := (List.eq_nil_or_concat bytes).resolve_left nonempty
    have last := whole c (by simp)
    exact absurd (by simp [last]) free

theorem next_snd_suffix (bytes : List UInt8) : (next bytes).2 <:+ bytes :=
  ⟨(cut limit bytes).1, cut_append limit bytes⟩

/-- **What a stream says after whole lines it says by itself.** -/
theorem Whole.all_append (whole : Whole a) (b : List UInt8) : all (a ++ b) = all a ++ all b := by
  induction length : a.length using Nat.strongRecOn generalizing a with
  | ind length ih =>
      subst length
      by_cases empty : a = []
      · simp [empty]
      · rw [all_append_of_settled b (whole.settled empty), all_of_ne_nil empty, List.cons_append,
          ih _ (next_snd_length_lt empty) (whole.suffix (next_snd_suffix a)) rfl]

/-! ## Texts that are lines -/

/-- A text that is the text of a line: it has no line feed, and no terminator at its end. -/
structure Clean (text : String) : Prop where
  free : '\n' ∉ text.toList
  last : text.toList.getLast? ≠ some '\r'

/-- The bytes of the text and its line feed fit into a line. -/
def Fits (text : String) : Prop := (write text).length ≤ limit

instance : Decidable (Clean text) :=
  decidable_of_iff ('\n' ∉ text.toList ∧ text.toList.getLast? ≠ some '\r')
    ⟨fun clean => ⟨clean.1, clean.2⟩, fun clean => ⟨clean.free, clean.last⟩⟩

instance : Decidable (Fits text) := inferInstanceAs (Decidable ((write text).length ≤ limit))

theorem fits_iff : Fits text ↔ (Utf8.encode text).length < limit := by
  rw [Fits, write, List.length_append]
  exact Nat.succ_le_iff

theorem Clean.trim_eq (clean : Clean text) : trim text = text := by
  apply trim_eq_self_iff.mpr
  exact ⟨clean.last, fun feed => clean.free (List.mem_of_getLast? feed)⟩

theorem length_encode_trim_le (text : String) :
    (Utf8.encode (trim text)).length ≤ (Utf8.encode text).length := by
  obtain ⟨more, whole⟩ := Text.dropEnd_prefix isTerminator text.toList
  rw [Utf8.length_encode, Utf8.length_encode, trim, String.toList_ofList, ← whole,
    List.map_append, List.sum_append]
  simp only [whole]
  exact Nat.le_add_right _ _

/-- A line feed at the end of a piece is none of the line's text. -/
theorem trim_decodeLossy_concat (a : List UInt8) :
    trim (Utf8.decodeLossy (a ++ [terminator])) = trim (Utf8.decodeLossy a) := by
  have ascii : terminator.toNat < 0x80 := by decide
  have feed : Utf8.Piece.lossy (.scalar (Char.ofNat terminator.toNat)) = '\n' := rfl
  rw [trim, Utf8.toList_decodeLossy, Utf8.pieces_append_ascii a [] ascii, List.map_append,
    List.map_cons, feed, trim, Utf8.toList_decodeLossy]
  exact congrArg String.ofList (Text.dropEnd_concat_of_pos _ rfl)

theorem terminator_not_mem_encode (free : '\n' ∉ text.toList) :
    terminator ∉ Utf8.encode text := by
  intro found
  exact free (Utf8.mem_of_mem_encode found (by decide))

/-- **The text of every piece is the text of a line**, whatever its bytes are. -/
theorem clean_of_piece (free : terminator ∉ a) : Clean (trim (Utf8.decodeLossy a)) := by
  constructor
  · intro found
    rw [trim, String.toList_ofList] at found
    have early := (Text.dropEnd_prefix isTerminator _).subset found
    exact free (Utf8.mem_of_mem_decodeLossy early (by decide))
  · exact (trim_eq_self_iff.mp (trim_trim _)).1

/-! ## What a piece says -/

theorem readPiece_ended (a : List UInt8) : readPiece (a ++ [terminator]) =
    .line (trim (Utf8.decodeLossy a)) (a ++ [terminator]).length := by
  rw [readPiece, if_neg (by simp), if_neg (by simp), trim_decodeLossy_concat]

theorem readPiece_full (free : terminator ∉ a) (full : a.length = limit) :
    readPiece a = .trouble .tooLong := by
  have nonempty : a ≠ [] := List.ne_nil_of_length_pos (by rw [full]; decide)
  rw [readPiece, if_neg nonempty, if_pos]
  exact ⟨fun last => free (List.mem_of_getLast? last), full⟩

theorem readPiece_whole (nonempty : a ≠ []) (short : a.length < limit) :
    readPiece a = .line (trim (Utf8.decodeLossy a)) a.length := by
  rw [readPiece, if_neg nonempty, if_neg fun full => Nat.ne_of_lt short full.2]

/-! ## Writing and reading -/

/-- **A text without line feeds that fits is read as it was written**, but for the terminators at
its end, and whatever follows. -/
theorem next_write_append (free : '\n' ∉ text.toList) (fits : Fits text) (rest : List UInt8) :
    next (write text ++ rest) = (.line (trim text) (write text).length, rest) := by
  have cuts : Cuts limit (write text ++ rest) (write text) rest := by
    simpa [write] using Cuts.ended rest (terminator_not_mem_encode free) (fits_iff.mp fits)
  rw [next, cuts.cut_eq]
  simp only [write, readPiece_ended, Utf8.decodeLossy_encode]

/-- A text that does not fit is refused, whatever follows. -/
theorem next_write_append_of_long (free : '\n' ∉ text.toList) (long : ¬ Fits text)
    (rest : List UInt8) : (next (write text ++ rest)).1 = .trouble .tooLong := by
  rw [fits_iff, Nat.not_lt] at long
  have first : terminator ∉ (Utf8.encode text).take limit := fun found =>
    terminator_not_mem_encode free (List.mem_of_mem_take found)
  have full : ((Utf8.encode text).take limit).length = limit := by simp [long]
  have cuts : Cuts limit (write text ++ rest) ((Utf8.encode text).take limit)
      ((Utf8.encode text).drop limit ++ [terminator] ++ rest) := by
    have here := Cuts.full ((Utf8.encode text).drop limit ++ [terminator] ++ rest) first full
    rwa [← List.append_assoc, ← List.append_assoc, List.take_append_drop] at here
  rw [next, cuts.cut_eq]
  exact readPiece_full first full

/-- Texts without line feeds that fit are read one after the other. -/
theorem all_write {texts : List String} (free : ∀ t ∈ texts, '\n' ∉ t.toList)
    (fits : ∀ t ∈ texts, Fits t) :
    all (texts.flatMap write) = texts.map fun t => .line (trim t) (write t).length := by
  induction texts with
  | nil => simp
  | cons t ts ih =>
      have nonempty : write t ++ ts.flatMap write ≠ [] := by simp [write]
      rw [List.forall_mem_cons] at free fits
      rw [List.flatMap_cons, all_of_ne_nil nonempty, next_write_append free.1 fits.1, List.map_cons,
        ih free.2 fits.2]

/-- **Texts that are lines are read as they were written exactly if all of them fit.** -/
theorem all_write_iff {texts : List String} (clean : ∀ t ∈ texts, Clean t) :
    all (texts.flatMap write) = texts.map (fun t => .line t (write t).length) ↔
      ∀ t ∈ texts, Fits t := by
  induction texts with
  | nil => simp
  | cons t ts ih =>
      have nonempty : write t ++ ts.flatMap write ≠ [] := by simp [write]
      rw [List.forall_mem_cons] at clean ⊢
      rw [List.flatMap_cons, all_of_ne_nil nonempty, List.map_cons, List.cons.injEq]
      by_cases fits : Fits t
      · rw [next_write_append clean.1.free fits, clean.1.trim_eq]
        simp [fits, ih clean.2]
      · rw [next_write_append_of_long clean.1.free fits]
        simp [fits]

end LineService.Line
