import LineService.Proofs.Line.Framing

/-!
# Streams that are read call by call

`Frames` says what a call that asks for a line takes off a stream and what it comes to: a line with
its line feed, the last line of a stream that ends without one, as many bytes as a line may have
when none of them is a line feed, or nothing where nothing is left.  `next_eq_iff` says that a call
does just this.

`calls` asks for line after line, whatever the calls come to.  The pieces that they take are the
stream, in its order and without gaps (`pieces_append_rest`), so the call behind one that came to
trouble goes on with the very next byte.  No call takes more than a line may have, or anything
behind a line feed (`of_mem_calls`), and one that finds a byte takes one, so the end is found after
no more calls than the stream has bytes (`exists_end`).

A reader that gets its bytes in segments comes to the same (`Inbox.Read.next_eq`).
-/

set_option autoImplicit false

namespace LineService.Line

variable {bytes rest piece : List UInt8} {r : Reading}

/-! ## One call -/

/-- A call for the next line of a stream, what it comes to and what it leaves. -/
inductive Frames : (bytes : List UInt8) → Reading → (rest : List UInt8) → Prop where
  | finished : Frames [] .finished []
  | line {a : List UInt8} (rest : List UInt8) (free : terminator ∉ a) (short : a.length < limit) :
      Frames (a ++ terminator :: rest)
        (.line (trim (Utf8.decodeLossy (a ++ [terminator]))) (a.length + 1)) rest
  | last {a : List UInt8} (nonempty : a ≠ []) (free : terminator ∉ a) (short : a.length < limit) :
      Frames a (.line (trim (Utf8.decodeLossy a)) a.length) []
  | tooLong {a : List UInt8} (rest : List UInt8) (free : terminator ∉ a)
      (full : a.length = limit) : Frames (a ++ rest) (.trouble .tooLong) rest

theorem Cuts.frames (cuts : Cuts limit bytes piece rest) :
    Frames bytes (readPiece piece) rest := by
  cases cuts with
  | @ended a rest free short =>
      have tells : readPiece (a ++ [terminator]) =
          .line (trim (Utf8.decodeLossy (a ++ [terminator]))) (a.length + 1) := by
        rw [readPiece_ended, trim_decodeLossy_concat, List.length_append, List.length_singleton]
      rw [tells]
      exact .line rest free short
  | full rest free full =>
      rw [readPiece_full free full]
      exact .tooLong rest free full
  | whole free short =>
      by_cases empty : bytes = []
      · subst empty
        exact .finished
      · rw [readPiece_whole empty short]
        exact .last empty free short

/-- A stream can be cut in one way only, so a call can come to one thing only. -/
theorem Frames.next_eq (frames : Frames bytes r rest) : next bytes = (r, rest) := by
  cases frames with
  | finished => rfl
  | @line a rest free short =>
      rw [next, (Cuts.ended rest free short).cut_eq, readPiece_ended, trim_decodeLossy_concat,
        List.length_append, List.length_singleton]
  | tooLong rest free full => rw [next, (Cuts.full rest free full).cut_eq, readPiece_full free full]
  | last nonempty free short =>
      rw [next, (Cuts.whole free short).cut_eq, readPiece_whole nonempty short]

/-- **What a call comes to.** -/
theorem next_eq_iff : next bytes = (r, rest) ↔ Frames bytes r rest := by
  constructor
  · intro called
    have frames : Frames bytes (next bytes).1 (next bytes).2 := (cuts limit bytes).frames
    rwa [called] at frames
  · exact Frames.next_eq

theorem frames_next (bytes : List UInt8) : Frames bytes (next bytes).1 (next bytes).2 :=
  next_eq_iff.mp rfl

/-- A call finds the end where nothing is left, and only there. -/
theorem next_eq_finished_iff : (next bytes).1 = .finished ↔ bytes = [] := by
  constructor
  · intro ended
    have frames := frames_next bytes
    rw [ended] at frames
    generalize (next bytes).2 = rest at frames
    cases frames with
    | finished => rfl
  · rintro rfl
    rfl

/-- **Every line that is read is the text of a line**, whatever bytes it was read from. -/
theorem Frames.clean {text : String} {size : Nat} (frames : Frames bytes (.line text size) rest) :
    Clean text := by
  generalize tells : Reading.line text size = r at frames
  cases frames with
  | line rest free short =>
      obtain ⟨rfl, -⟩ := Reading.line.inj tells
      rw [trim_decodeLossy_concat]
      exact clean_of_piece free
  | last nonempty free short =>
      obtain ⟨rfl, -⟩ := Reading.line.inj tells
      exact clean_of_piece free
  | finished | tooLong => cases tells

theorem Inbox.Read.clean {i j : Inbox} {text : String} {size : Nat}
    (read : i.Read (.line text size) j) : Clean text := by
  have frames := frames_next i.pending
  generalize tells : Reading.line text size = r at read
  cases read with
  | settled | last =>
      rw [← tells] at frames
      exact frames.clean
  | lost => cases tells

/-! ## One call after the other -/

/-- What the next call takes off a stream: all but what it leaves. -/
def taken (bytes : List UInt8) : List UInt8 :=
  bytes.take (bytes.length - (next bytes).2.length)

/-- What `n` calls take off a stream and come to, and what they leave. -/
def calls : (n : Nat) → (bytes : List UInt8) → List (List UInt8 × Reading) × List UInt8
  | 0, bytes => ([], bytes)
  | n + 1, bytes =>
    let later := calls n (next bytes).2
    ((taken bytes, (next bytes).1) :: later.1, later.2)

theorem taken_eq_cut (bytes : List UInt8) : taken bytes = (cut limit bytes).1 := by
  have whole := cut_append limit bytes
  have lengths := congrArg List.length whole
  rw [List.length_append] at lengths
  have size : bytes.length - (next bytes).2.length = (cut limit bytes).1.length := by
    change bytes.length - (cut limit bytes).2.length = _
    omega
  have front : ((cut limit bytes).1 ++ (cut limit bytes).2).take (cut limit bytes).1.length =
      (cut limit bytes).1 := List.take_left
  rw [taken, size]
  rwa [whole] at front

@[simp] theorem taken_append_rest (bytes : List UInt8) : taken bytes ++ (next bytes).2 = bytes := by
  rw [taken_eq_cut]
  exact cut_append limit bytes

/-- **Nothing is lost and nothing read twice.** -/
theorem pieces_append_rest (n : Nat) (bytes : List UInt8) :
    (calls n bytes).1.flatMap Prod.fst ++ (calls n bytes).2 = bytes := by
  induction n generalizing bytes with
  | zero => rfl
  | succ n ih =>
      rw [calls, List.flatMap_cons, List.append_assoc]
      dsimp only
      rw [ih, taken_append_rest]

/-- The next call goes on with what the calls before it have left. -/
theorem rest_succ (n : Nat) (bytes : List UInt8) :
    (calls (n + 1) bytes).2 = (next (calls n bytes).2).2 := by
  induction n generalizing bytes with
  | zero => rfl
  | succ n ih => exact ih (next bytes).2

/-- A call is what asking for the next line of some stream comes to. -/
theorem exists_of_mem_calls {n : Nat} {call : List UInt8 × Reading}
    (made : call ∈ (calls n bytes).1) : ∃ left, call = (taken left, (next left).1) := by
  induction n generalizing bytes with
  | zero => cases made
  | succ n ih =>
      rcases List.mem_cons.mp made with rfl | later
      · exact ⟨bytes, rfl⟩
      · exact ih later

theorem cuts_taken (bytes : List UInt8) : Cuts limit bytes (taken bytes) (next bytes).2 := by
  rw [taken_eq_cut]
  exact cuts limit bytes

theorem Cuts.length_le {m : Nat} (cuts : Cuts m bytes piece rest) : piece.length ≤ m := by
  cases cuts with
  | ended rest free short =>
      rw [List.length_append]
      exact short
  | full rest free full => exact Nat.le_of_eq full
  | whole free short => exact Nat.le_of_lt short

theorem Cuts.not_mem_dropLast {m : Nat} (cuts : Cuts m bytes piece rest) :
    terminator ∉ piece.dropLast := by
  cases cuts with
  | ended rest free short => simpa using free
  | full rest free full => exact fun found => free (List.dropLast_subset _ found)
  | whole free short => exact fun found => free (List.dropLast_subset _ found)

/-- A call takes no more than a line may have, and nothing behind a line feed. -/
theorem of_mem_calls {n : Nat} {call : List UInt8 × Reading} (made : call ∈ (calls n bytes).1) :
    call.1.length ≤ limit ∧ terminator ∉ call.1.dropLast := by
  obtain ⟨left, rfl⟩ := exists_of_mem_calls made
  exact ⟨(cuts_taken left).length_le, (cuts_taken left).not_mem_dropLast⟩

/-- Where a piece is too long the next call goes on with the very next byte. -/
theorem rest_of_tooLong (long : (next bytes).1 = .trouble .tooLong) :
    (next bytes).2 = bytes.drop limit := by
  have frames := frames_next bytes
  rw [long] at frames
  generalize (next bytes).2 = rest at frames
  cases frames with
  | tooLong rest free full => rw [← full, List.drop_left]

/-- **The text of a line that is read is what the call takes, decoded**, without the carriage
returns and line feeds at its end. -/
theorem text_of_next {text : String} {size : Nat} (read : next bytes = (.line text size, rest)) :
    (text.toList.getLast? ≠ some '\r' ∧ text.toList.getLast? ≠ some '\n') ∧
      ∃ back, Utf8.decodeLossy (taken bytes) = text ++ back ∧
        ∀ c ∈ back.toList, c = '\r' ∨ c = '\n' := by
  apply trim_eq_iff.mp
  have tells : readPiece (taken bytes) = .line text size := by
    rw [taken_eq_cut]
    exact congrArg Prod.fst read
  unfold readPiece at tells
  split at tells
  · cases tells
  · split at tells
    · cases tells
    · exact (Reading.line.inj tells).1

/-! ## Coming to the end -/

theorem calls_nil (n : Nat) : (calls n []).2 = [] := by
  induction n with
  | zero => rfl
  | succ n ih => exact ih

/-- **The end is found** after as many calls as there are readings, and the calls before it come to
these. -/
theorem exists_end (bytes : List UInt8) :
    ∃ n ≤ bytes.length, (calls n bytes).1.map Prod.snd = all bytes ∧
      ∀ m, (next (calls m bytes).2).1 = .finished ↔ n ≤ m := by
  induction length : bytes.length using Nat.strongRecOn generalizing bytes with
  | ind length ih =>
      subst length
      by_cases empty : bytes = []
      · subst empty
        refine ⟨0, Nat.zero_le _, all_nil.symm, fun m => ?_⟩
        rw [calls_nil]
        exact iff_of_true rfl (Nat.zero_le m)
      · have fewer := next_snd_length_lt empty
        obtain ⟨n, le, readings, ended⟩ := ih _ fewer (next bytes).2 rfl
        refine ⟨n + 1, Nat.lt_of_le_of_lt le fewer, ?_, fun m => ?_⟩
        · rw [all_of_ne_nil empty, ← readings]
          rfl
        · cases m with
          | zero =>
              rw [calls, next_eq_finished_iff]
              exact iff_of_false empty (Nat.not_succ_le_zero n)
          | succ m => exact (ended m).trans Nat.succ_le_succ_iff.symm

/-! ## Streams that arrive in segments -/

/-- **A reader that waits for its bytes comes to what the whole stream says**, unless the connection
breaks. -/
theorem Inbox.Read.next_eq {i j : Inbox} (read : i.Read r j)
    (sound : ∀ f, i.outlook ≠ .broken f) {more : List UInt8}
    (rest : i.outlook = .expecting ∨ more = []) :
    next (i.pending ++ more) = (r, j.pending ++ more) := by
  cases read with
  | settled here => exact next_append_of_settled more here
  | last unsettled ended =>
      obtain rfl : more = [] := rest.resolve_left (by simp [ended])
      simp only [List.append_nil]
  | lost f broken => exact absurd broken (sound f)

/-- **Every stream of bytes is framed exactly.**

* A call for the next line comes to what `Frames` says and to nothing else, and it finds the end
  where nothing is left and only there.
* The text of a line that is read ends in neither carriage return nor line feed, and nothing but
  these is cut off from the bytes it was read from.
* However the bytes arrive, a reader comes to what the whole stream says.
* However many calls are made, and whatever they come to, the pieces they take and what they leave
  make up the stream; no piece has more bytes than a line may have or a line feed before its last
  byte.
* The call behind one whose piece was too long goes on with the byte behind that piece.
* After some number of calls, and no more than there are bytes, every call finds the end, and none
  does before; the calls until then come to the readings of the whole stream. -/
theorem stream_framed (bytes : List UInt8) :
    (∀ r rest, next bytes = (r, rest) ↔ Frames bytes r rest) ∧
    ((next bytes).1 = .finished ↔ bytes = []) ∧
    (∀ text size rest, next bytes = (.line text size, rest) →
      (text.toList.getLast? ≠ some '\r' ∧ text.toList.getLast? ≠ some '\n') ∧
        ∃ back, Utf8.decodeLossy (taken bytes) = text ++ back ∧
          ∀ c ∈ back.toList, c = '\r' ∨ c = '\n') ∧
    (∀ (i j : Inbox) (r : Reading) (more : List UInt8), i.pending ++ more = bytes →
      (∀ f, i.outlook ≠ .broken f) → i.outlook = .expecting ∨ more = [] →
      i.read? = some (r, j) → next bytes = (r, j.pending ++ more)) ∧
    (∀ n, (calls n bytes).1.flatMap Prod.fst ++ (calls n bytes).2 = bytes) ∧
    (∀ n, ∀ call ∈ (calls n bytes).1,
      call.1.length ≤ limit ∧ terminator ∉ call.1.dropLast) ∧
    (∀ n, (next (calls n bytes).2).1 = .trouble .tooLong →
      (calls (n + 1) bytes).2 = (calls n bytes).2.drop limit) ∧
    ∃ n ≤ bytes.length, (calls n bytes).1.map Prod.snd = all bytes ∧
      ∀ m, (next (calls m bytes).2).1 = .finished ↔ n ≤ m := by
  refine ⟨fun r rest => next_eq_iff, next_eq_finished_iff, fun _ _ _ => text_of_next, ?arriving,
    fun n => pieces_append_rest n bytes, fun n call made => of_mem_calls made, ?onwards,
    exists_end bytes⟩
  case arriving =>
    intro i j r more whole sound rest taken
    subst whole
    exact (Inbox.read_of_read? taken).next_eq sound rest
  case onwards =>
    intro n long
    rw [rest_succ]
    exact rest_of_tooLong long

end LineService.Line
