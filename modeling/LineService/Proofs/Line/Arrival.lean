import LineService.Line.Inbox

/-!
# Lines of a stream that is still arriving

A piece that has its line feed, or has reached the limit without one, is settled: bytes that
arrive after it change neither the piece nor the line it says (`next_append_of_settled`).

So asking an inbox for a line gives what reading the whole stream gives first, however the
stream is cut into the segments that arrive and however much of it has arrived
(`Inbox.Read.all_append`).  The one exception is a connection that breaks, of which the last,
unfinished line is lost.
-/

set_option autoImplicit false

namespace LineService.Line

/-! ## Settled pieces -/

theorem settled_iff {piece : List UInt8} :
    settled piece = true ↔ piece.getLast? = some terminator ∨ piece.length = limit := by
  simp [settled]

/-- A piece that has come to its end is not changed by what follows it in the stream. -/
theorem cut_append_of_complete {n : Nat} {bytes : List UInt8} (more : List UInt8)
    (complete : (cut n bytes).1.getLast? = some terminator ∨ (cut n bytes).1.length = n) :
    cut n (bytes ++ more) = ((cut n bytes).1, (cut n bytes).2 ++ more) := by
  induction n generalizing bytes with
  | zero => rfl
  | succ n ih =>
      cases bytes with
      | nil => simp [cut] at complete
      | cons b rest =>
          by_cases ends : b = terminator
          · simp [cut, ends]
          · simp only [cut, ends, if_false, List.cons_append] at complete ⊢
            have tail : (cut n rest).1.getLast? = some terminator ∨ (cut n rest).1.length = n := by
              rcases complete with last | full
              · cases piece : (cut n rest).1 with
                | nil => simp [piece, ends] at last
                | cons c cs => exact .inl (by simpa [piece, List.getLast?_cons] using last)
              · exact .inr (by simpa using full)
            rw [ih tail]

theorem ne_nil_of_settled {bytes : List UInt8} (here : settled (cut limit bytes).1 = true) :
    bytes ≠ [] := by
  rintro rfl
  simp [cut, limit, settled] at here

theorem next_append_of_settled {bytes : List UInt8} (more : List UInt8)
    (here : settled (cut limit bytes).1 = true) :
    next (bytes ++ more) = ((next bytes).1, (next bytes).2 ++ more) := by
  simp only [next, cut_append_of_complete more (settled_iff.mp here)]

/-- The line that a stream begins with takes at least one of its bytes. -/
theorem next_snd_length_lt {bytes : List UInt8} (nonempty : bytes ≠ []) :
    (next bytes).2.length < bytes.length :=
  cut_snd_length_lt (by decide) nonempty

/-! ## Reading a whole stream -/

@[simp] theorem all_nil : all [] = [] := by
  rw [all]
  simp

theorem all_of_ne_nil {bytes : List UInt8} (nonempty : bytes ≠ []) :
    all bytes = (next bytes).1 :: all (next bytes).2 := by
  rw [all]
  simp [nonempty]

/-- A settled line is the first one of the stream, whatever follows. -/
theorem all_append_of_settled {bytes : List UInt8} (more : List UInt8)
    (here : settled (cut limit bytes).1 = true) :
    all (bytes ++ more) = (next bytes).1 :: all ((next bytes).2 ++ more) := by
  have nonempty : bytes ++ more ≠ [] :=
    List.append_ne_nil_of_left_ne_nil (ne_nil_of_settled here) more
  rw [all_of_ne_nil nonempty, next_append_of_settled more here]

/-! ## What a piece says -/

@[simp] theorem readPiece_nil : readPiece [] = .finished := rfl

/-- A piece says a line or is too long; only the empty one says nothing. -/
theorem readPiece_of_ne_nil {piece : List UInt8} (nonempty : piece ≠ []) :
    (∃ text, readPiece piece = .line text piece.length) ∨ readPiece piece = .trouble .tooLong := by
  unfold readPiece
  rw [if_neg nonempty]
  split
  · exact .inr rfl
  · exact .inl ⟨_, rfl⟩

theorem cut_fst_ne_nil {bytes : List UInt8} (nonempty : bytes ≠ []) : (cut limit bytes).1 ≠ [] := by
  intro nothing
  have whole := cut_append limit bytes
  rw [nothing, List.nil_append] at whole
  have fewer := cut_snd_length_lt (show 0 < limit by decide) nonempty
  rw [whole] at fewer
  exact Nat.lt_irrefl _ fewer

theorem next_cases {bytes : List UInt8} (nonempty : bytes ≠ []) :
    (∃ text size, (next bytes).1 = .line text size) ∨ (next bytes).1 = .trouble .tooLong := by
  rcases readPiece_of_ne_nil (cut_fst_ne_nil nonempty) with ⟨text, tells⟩ | long
  · exact .inl ⟨text, _, tells⟩
  · exact .inr long

/-! ## Asking an inbox -/

namespace Inbox

variable {i j : Inbox} {r : Reading}

/-- What asking an inbox for a line comes to. -/
inductive Read (i : Inbox) : Reading → Inbox → Prop where
  | settled (here : Line.settled (cut limit i.pending).1 = true) :
      Read i (next i.pending).1 { i with pending := (next i.pending).2 }
  | last (unsettled : Line.settled (cut limit i.pending).1 = false) (ended : i.outlook = .ended) :
      Read i (next i.pending).1 { i with pending := (next i.pending).2 }
  | lost (f : Net.Fault) (broken : i.outlook = .broken f) :
      Read i (.trouble (.fault f)) { i with pending := [] }

theorem read_of_read? (taken : i.read? = some (r, j)) : Read i r j := by
  simp only [read?] at taken
  split at taken
  · rename_i here
    cases taken
    exact .settled here
  · rename_i unsettled
    split at taken
    · cases taken
    · rename_i ended
      cases taken
      exact .last (Bool.not_eq_true _ ▸ unsettled) ended
    · rename_i f broken
      cases taken
      exact .lost f broken

/-- A reader waits only while more may come. -/
theorem read?_isSome (closed : i.outlook ≠ .expecting) : ∃ r j, i.read? = some (r, j) := by
  simp only [read?]
  split
  · exact ⟨_, _, rfl⟩
  · split
    · rename_i expecting
      exact absurd expecting closed
    · exact ⟨_, _, rfl⟩
    · exact ⟨_, _, rfl⟩

theorem Read.outlook_eq (read : Read i r j) : j.outlook = i.outlook := by
  cases read <;> rfl

/-- Reading a line takes at least one byte. -/
theorem Read.length_lt {text : String} {size : Nat} (read : Read i (.line text size) j) :
    j.pending.length < i.pending.length := by
  generalize tells : Reading.line text size = r at read
  have fewer (line : Reading.line text size = (next i.pending).1) :
      (next i.pending).2.length < i.pending.length := by
    refine next_snd_length_lt fun nothing => ?_
    simp [nothing, next, cut, limit] at line
  cases read with
  | settled | last => exact fewer tells
  | lost => cases tells

/-- Only a broken connection is a fault. -/
theorem Read.broken_of_fault {f : Net.Fault} (read : Read i (.trouble (.fault f)) j) :
    i.outlook = .broken f := by
  generalize tells : Reading.trouble (.fault f) = r at read
  have sound (fault : Reading.trouble (.fault f) = (next i.pending).1) : False := by
    by_cases nothing : i.pending = []
    · simp [nothing, next, cut, limit] at fault
    · rcases next_cases nothing with ⟨text, size, line⟩ | long
      · exact absurd (fault.trans line) (by simp)
      · exact absurd (fault.trans long) (by simp)
  cases read with
  | settled | last => exact (sound tells).elim
  | lost f' broken =>
      cases tells
      exact broken

/-- **What is read first is what the whole stream says first**, whatever else arrives, unless
the connection has broken.  The end is read when the stream says nothing more. -/
theorem Read.all_append (read : Read i r j) (sound : ∀ f, r ≠ .trouble (.fault f))
    {more : List UInt8} (rest : i.outlook = .expecting ∨ more = []) :
    (r = .finished ∧ all (i.pending ++ more) = []) ∨
      (r ≠ .finished ∧ all (i.pending ++ more) = r :: all (j.pending ++ more)) := by
  cases read with
  | settled here =>
      have tells : (next i.pending).1 ≠ .finished := by
        rcases next_cases (ne_nil_of_settled here) with ⟨text, size, line⟩ | long
        · simp [line]
        · simp [long]
      exact .inr ⟨tells, all_append_of_settled more here⟩
  | last unsettled ended =>
      have nothing : more = [] := by
        rcases rest with expecting | nothing
        · exact absurd (ended.symm.trans expecting) (by simp)
        · exact nothing
      subst nothing
      simp only [List.append_nil]
      by_cases empty : i.pending = []
      · refine .inl ⟨?_, ?_⟩
        · simp [empty, next, cut, limit]
        · rw [empty, all_nil]
      · refine .inr ⟨?_, all_of_ne_nil empty⟩
        rcases next_cases empty with ⟨text, size, line⟩ | long
        · simp [line]
        · simp [long]
  | lost f broken => exact absurd rfl (sound f)

end Inbox

end LineService.Line
