import LineService.Proofs.Moment.Writing
import LineService.Proofs.Session.Likeness

/-!
# Replies as lines for the other side

A line is held to a limit when it is read, not when it is written.  Every line that a session
answers is what a piece of its stream says, and the piece respects the limit (`exists_piece`); but
the reply is a text, and where bytes of the piece are broken the text takes more bytes than they
do.  The replies of fixed words and the number of clients are short, so everything hangs on the
`ECHO`s (`SaidBy.fits_or`).

`replies_read_back` says when the other side can read what it is sent, and `echo_not_readable`
that this need not be so.
-/

set_option autoImplicit false

namespace LineService.Session

variable {s : Session} {peer line text : String} {es : List Event} {bytes piece : List UInt8}
  {q : Question}

/-! ## Where the lines of the agenda come from -/

theorem mem_agenda_line {size : Nat} {readings : List Line.Reading}
    (found : line ∈ agenda (.line text size :: readings)) :
    line = text ∨ line ∈ agenda readings := by
  unfold agenda at found
  split at found
  · exact .inl (List.mem_singleton.mp found)
  · exact List.mem_cons.mp found

/-- A line is what a piece of the stream says.  The piece is not longer than a line may be, and it
has no more flaws than the stream. -/
structure SaidBy (bytes piece : List UInt8) (line : String) : Prop where
  part : piece <:+: bytes
  length_le : piece.length ≤ Line.limit
  flaws_le : Utf8.flaws piece ≤ Utf8.flaws bytes
  eq_trim : line = Line.trim (Utf8.decodeLossy piece)
  clean : Line.Clean line

/-- **Every line of the agenda is what a piece of the stream says.** -/
theorem exists_piece (found : line ∈ agenda (Line.all bytes)) :
    ∃ piece, SaidBy bytes piece line := by
  induction length : bytes.length using Nat.strongRecOn generalizing bytes with
  | ind length ih =>
      subst length
      by_cases empty : bytes = []
      · simp [empty, agenda] at found
      obtain ⟨piece, rest, cuts⟩ : ∃ piece rest, Line.Cuts Line.limit bytes piece rest :=
        ⟨_, _, Line.cuts _ _⟩
      rw [Line.all_of_cuts cuts empty] at found
      cases cuts with
      | @ended a rest free short =>
          have feed : Line.terminator.toNat < 0x80 := by decide
          rw [Line.readPiece_ended] at found
          rcases mem_agenda_line found with rfl | later
          · refine ⟨a ++ [Line.terminator], ⟨[], rest, by simp⟩, by simp; omega, ?_,
              (Line.trim_decodeLossy_concat a).symm, Line.clean_of_piece free⟩
            rw [Utf8.flaws_append_ascii _ _ feed, Utf8.flaws_append_ascii _ _ feed]
            exact Nat.add_le_add_left (Nat.zero_le _) _
          · obtain ⟨piece, part, length_le, flaws_le, eq_trim, clean⟩ :=
              ih rest.length (by simp; omega) later rfl
            refine ⟨piece, part.trans ?_, length_le, Nat.le_trans flaws_le ?_, eq_trim, clean⟩
            · exact ⟨a ++ [Line.terminator], [], by simp⟩
            · rw [Utf8.flaws_append_ascii _ _ feed]
              exact Nat.le_add_left _ _
      | full rest free full =>
          rw [Line.readPiece_full free full] at found
          simp [agenda] at found
      | whole free short =>
          rw [Line.readPiece_whole empty short, Line.all_nil] at found
          rcases mem_agenda_line found with rfl | later
          · exact ⟨bytes, List.infix_refl _, Nat.le_of_lt short, Nat.le_refl _, rfl,
              Line.clean_of_piece free⟩
          · simp [agenda] at later

/-! ## What is answered -/

/-- Every line that begins with `ECHO` and a space is an `ECHO`, and no other. -/
theorem ofText_eq_echo_iff : Request.ofText line = .echo text ↔ line = "ECHO " ++ text :=
  Request.ofText_eq_iff Request.noConfusion

theorem SaidBy.echo (said : SaidBy bytes piece line) (echo : Request.ofLine line = .echo text) :
    line = "ECHO " ++ text := by
  rw [Request.ofLine, said.clean.trim_eq] at echo
  exact ofText_eq_echo_iff.mp echo

/-- The reply to an `ECHO` is shorter than the line, but longer than its piece where that has
flaws. -/
theorem SaidBy.length_echo_le (said : SaidBy bytes piece line)
    (echo : Request.ofLine line = .echo text) :
    (Line.write text).length + 4 ≤ piece.length + 2 * Utf8.flaws piece := by
  have bound := Utf8.length_encode_decodeLossy_le piece
  have opening : ("ECHO ".toList.map Char.utf8Size).sum = 5 := by decide
  have whole : (Utf8.encode line).length = 5 + (Utf8.encode text).length := by
    rw [Utf8.length_encode, said.echo echo, String.toList_append, List.map_append,
      List.sum_append, opening, Utf8.length_encode]
  have trimmed : (Utf8.encode line).length ≤ (Utf8.encode (Utf8.decodeLossy piece)).length :=
    said.eq_trim ▸ Line.length_encode_trim_le _
  rw [Line.write, List.length_append, List.length_singleton]
  omega

theorem clean_activeClients (active : Nat) : Line.Clean (Response.activeClients active) := by
  have digit {c : Char} (found : c ∈ Nat.toDigits 10 active) : c.isDigit = true :=
    Nat.isDigit_of_mem_toDigits (by decide) (by decide) found
  constructor
  · rw [Response.toList_activeClients, List.mem_append, not_or]
    refine ⟨by decide, fun found => ?_⟩
    exact absurd (digit found) (by decide)
  · intro last
    obtain ⟨c, there⟩ : ∃ c, (Nat.toDigits 10 active).getLast? = some c :=
      ⟨_, List.getLast?_eq_some_getLast Nat.toDigits_ne_nil⟩
    rw [Response.toList_activeClients, List.getLast?_append, there, Option.some_or,
      Option.some.injEq] at last
    subst last
    exact absurd (digit (List.mem_of_getLast? there)) (by decide)

/-- A number of clients that a machine word can hold takes few digits. -/
theorem fits_activeClients {active : Nat} (word : active < UInt64.size) :
    Line.Fits (Response.activeClients active) := by
  have digits : (Nat.toDigits 10 active).length ≤ 20 :=
    (Nat.length_toDigits_le_iff (by decide) (by decide)).mpr (Nat.lt_of_lt_of_le word (by decide))
  have bound := Utf8.length_encode_le (Response.activeClients active)
  have opening : "Active clients: ".toList.length = 16 := by decide
  rw [Response.toList_activeClients, List.length_append, opening] at bound
  rw [Line.fits_iff]
  have limit : Line.limit = 4096 := rfl
  omega

/-- The answers that do not depend on anything are lines, and fit. -/
theorem clean_constant : Line.Clean Response.pong ∧ Line.Clean Response.goodbye ∧
    Line.Clean Response.unknownCommand := by
  decide

theorem fits_constant : Line.Fits Response.pong ∧ Line.Fits Response.goodbye ∧
    Line.Fits Response.unknownCommand := by
  decide

/-- What an `ECHO` sends back is the end of its line. -/
theorem clean_echo (line' : Line.Clean line) (echo : Request.ofLine line = .echo text) :
    Line.Clean text := by
  rw [Request.ofLine, line'.trim_eq] at echo
  have whole : line.toList = "ECHO ".toList ++ text.toList := by
    rw [ofText_eq_echo_iff.mp echo, String.toList_append]
  constructor
  · intro found
    exact line'.free (whole ▸ List.mem_append_right _ found)
  · intro last
    exact line'.last (by rw [whole, List.getLast?_append, last, Option.some_or])

/-- What is sent is the text of a line if the clock's text is. -/
theorem clean_answer (line : Line.Clean q.line) (clock : Line.Clean q.now) :
    Line.Clean q.answer := by
  unfold Question.answer
  cases request : Request.ofLine q.line with
  | ping => exact clean_constant.1
  | time => exact clock
  | echo message => exact clean_echo line request
  | stats => exact clean_activeClients q.active
  | quit => exact clean_constant.2.1
  | unknown => exact clean_constant.2.2

/-- Whether an answer fits hangs on the flaws of the piece that asked for it. -/
theorem SaidBy.fits_or (said : SaidBy bytes piece q.line) (clock : Line.Fits q.now)
    (word : q.active < UInt64.size) : Line.Fits q.answer ∨ Request.ofLine q.line = .echo q.answer ∧
      Line.limit + 4 < piece.length + 2 * Utf8.flaws piece := by
  unfold Question.answer
  cases request : Request.ofLine q.line with
  | ping => exact .inl fits_constant.1
  | time => exact .inl clock
  | echo message =>
      by_cases fits : Line.Fits message
      · exact .inl fits
      · have bound := said.length_echo_le request
        rw [Line.Fits] at fits
        exact .inr ⟨rfl, by omega⟩
  | stats => exact .inl (fits_activeClients word)
  | quit => exact .inl fits_constant.2.1
  | unknown => exact .inl fits_constant.2.2

/-! ## What is read on the other side -/

/-- What is sent answers a question that a piece of the stream asks. -/
theorem Course.sent_piece (course : Course peer s es) (sends : Sends bytes s es)
    (sent : text ∈ s.sent) :
    ∃ q ∈ asked es, text = q.answer ∧ ∃ piece, SaidBy bytes piece q.line := by
  obtain ⟨k, place⟩ := List.mem_iff_getElem?.mp sent
  obtain ⟨q, here, line, answer⟩ := course.sent_question sends place
  exact ⟨q, List.mem_of_getElem? here, answer, exists_piece (List.mem_of_getElem? line)⟩

/-- The clock and the count are as they can be: the clock's text is a line that fits, and the
number of clients is one that a machine word can hold. -/
structure Question.Plain (q : Question) : Prop where
  clean : Line.Clean q.now
  fits : Line.Fits q.now
  word : q.active < UInt64.size

instance : Decidable q.Plain :=
  decidable_of_iff (Line.Clean q.now ∧ Line.Fits q.now ∧ q.active < UInt64.size)
    ⟨fun plain => ⟨plain.1, plain.2.1, plain.2.2⟩, fun plain => ⟨plain.1, plain.2, plain.3⟩⟩

/-- The clock is plain where it shows moments of the years up to 9999. -/
theorem Question.plain_of_moment {m : Moment} (shown : q.now = m.write) (narrow : m.Narrow)
    (word : q.active < UInt64.size) : q.Plain where
  clean := shown ▸ m.clean_write
  fits := shown ▸ Moment.fits_write narrow
  word := word

/-- All that is sent is the text of a line. -/
theorem Course.sent_clean (course : Course peer s es) (sends : Sends bytes s es)
    (plain : ∀ q ∈ asked es, q.Plain) (sent : text ∈ s.sent) : Line.Clean text := by
  obtain ⟨q, here, rfl, piece, said⟩ := course.sent_piece sends sent
  exact clean_answer said.clean (plain q here).clean

/-- What is sent does not fit only if it echoes a piece with flaws. -/
theorem Course.sent_fits_or (course : Course peer s es) (sends : Sends bytes s es)
    (plain : ∀ q ∈ asked es, q.Plain) (sent : text ∈ s.sent) : Line.Fits text ∨
      ∃ piece line, SaidBy bytes piece line ∧ Request.ofLine line = .echo text ∧
        Line.limit + 4 < piece.length + 2 * Utf8.flaws piece := by
  obtain ⟨q, here, rfl, piece, said⟩ := course.sent_piece sends sent
  rcases said.fits_or (plain q here).fits (plain q here).word with fits | ⟨echo, long⟩
  · exact .inl fits
  · exact .inr ⟨piece, q.line, said, echo, long⟩

/-- A stream with few flaws gets no reply that does not fit. -/
theorem Course.sent_fits (course : Course peer s es) (sends : Sends bytes s es)
    (plain : ∀ q ∈ asked es, q.Plain) (few : Utf8.flaws bytes ≤ 2) (sent : text ∈ s.sent) :
    Line.Fits text := by
  rcases course.sent_fits_or sends plain sent with fits | ⟨piece, line, said, -, long⟩
  · exact fits
  · have short := said.length_le
    have flaws := said.flaws_le
    omega

/-- **What a session sends is read on the other side as it was sent exactly if all of it fits.**

Whatever bytes the client sends, each reply is the text of a line, so reading the output gives the
replies, in their order and without trouble, if and only if each has with its line feed no more
bytes than a line may have.  A reply that has more is the echo of a piece of the stream that has
no more bytes than a line may have and so many flaws that replacing them makes up for the `ECHO`
and exceeds the limit.  Three flaws are needed for that: a stream with fewer, such as the bytes
of a text, gets no such reply. -/
theorem replies_read_back (course : Course peer s es) (sends : Sends bytes s es)
    (plain : ∀ q ∈ asked es, q.Plain) :
    (Line.all s.output = s.sent.map (fun t => .line t (Line.write t).length) ↔
      ∀ t ∈ s.sent, Line.Fits t) ∧
    (∀ t ∈ s.sent, ¬ Line.Fits t → ∃ piece line, SaidBy bytes piece line ∧
      Request.ofLine line = .echo t ∧ Line.limit + 4 < piece.length + 2 * Utf8.flaws piece) ∧
    (Utf8.flaws bytes ≤ 2 → ∀ t ∈ s.sent, Line.Fits t) := by
  refine ⟨?_, fun t sent long => ?_, fun few t sent => course.sent_fits sends plain few sent⟩
  · exact Line.all_write_iff fun t sent => course.sent_clean sends plain sent
  · exact (course.sent_fits_or sends plain sent).resolve_left long

/-- A client that sends one broken byte is told so, in a line that can be read. -/
theorem replies_read_back_one_flaw :
    ∃ s es, Course "a" s es ∧ Sends (Utf8.encode "ECHO " ++ [0xFF, 10, 83]) s es ∧
      (∀ q ∈ asked es, q.Plain) ∧ s.sent = ["\ufffd"] ∧
      Line.all s.output = [.line "\ufffd" 4] := by
  have course : Course "a" _ _ := Machine.reaches_of_run
    [.turn "noon" 0, .turn "noon" 1, .receive (Utf8.encode "ECHO " ++ [0xFF, 10]),
      .turn "noon" 1, .turn "noon" 1, .turn "noon" 1] rfl
  refine ⟨_, _, course, ?sends, ?plain, rfl, ?back⟩
  case sends => exact ⟨[83], rfl, .inl rfl⟩
  case plain => decide
  case back =>
    have back := replies_read_back course ⟨[83], rfl, .inl rfl⟩ (by decide)
    exact back.1.mpr (back.2.2 (by decide))

/-! ## An echo that cannot be read -/

/-- A line that asks for the echo of `n` bytes that begin no character. -/
def brokenEcho (n : Nat) : List UInt8 := Utf8.encode "ECHO " ++ List.replicate n 0xFF

/-- So many replacement characters. -/
def replacements (n : Nat) : String := String.ofList (List.replicate n Utf8.replacement)

theorem not_mem_brokenEcho (n : Nat) {b : UInt8} (opening : b ∉ Utf8.encode "ECHO ")
    (broken : b ≠ 0xFF) : b ∉ brokenEcho n := by
  rw [brokenEcho, List.mem_append, not_or]
  exact ⟨opening, fun found => broken (List.eq_of_mem_replicate found)⟩

theorem decodeLossy_brokenEcho (n : Nat) :
    Utf8.decodeLossy (brokenEcho n) = "ECHO " ++ replacements n := by
  rw [← String.toList_inj, Utf8.toList_decodeLossy, brokenEcho, Utf8.pieces_encode_append,
    Utf8.pieces_replicate_of_stray (by decide) (by decide)]
  simp [replacements, Utf8.Piece.lossy]

theorem clean_brokenEcho (n : Nat) : Line.Clean ("ECHO " ++ replacements n) := by
  rw [← decodeLossy_brokenEcho]
  constructor
  · intro found
    have here := Utf8.mem_of_mem_decodeLossy found (by decide)
    exact not_mem_brokenEcho n (by decide) (by decide) here
  · intro last
    have here := Utf8.mem_of_mem_decodeLossy (List.mem_of_getLast? last) (by decide)
    exact not_mem_brokenEcho n (by decide) (by decide) here

/-- A session that is asked for the echo of broken bytes sends back as many replacement
characters. -/
theorem exists_course_of_brokenEcho {n : Nat} (short : (brokenEcho n).length < Line.limit) :
    ∃ s es, Course "a" s es ∧ Sends (brokenEcho n ++ [Line.terminator]) s es ∧
      (∀ q ∈ asked es, q.Plain) ∧ s.phase = .over ∧ s.sent = [replacements n] := by
  have cuts : Line.Cuts Line.limit (brokenEcho n ++ [Line.terminator])
      (brokenEcho n ++ [Line.terminator]) [] :=
    .ended [] (not_mem_brokenEcho n (by decide) (by decide)) short
  have reads : Line.next (brokenEcho n ++ [Line.terminator]) =
      (.line ("ECHO " ++ replacements n) (brokenEcho n ++ [Line.terminator]).length, []) := by
    rw [Line.next, cuts.cut_eq]
    simp only [Line.readPiece_ended, decodeLossy_brokenEcho, (clean_brokenEcho n).trim_eq]
  have read : Line.Inbox.read? ⟨brokenEcho n ++ [Line.terminator], .ended⟩ =
      some (.line ("ECHO " ++ replacements n) (brokenEcho n ++ [Line.terminator]).length,
        ⟨[], .ended⟩) := by
    simp [Line.Inbox.read?, cuts.cut_eq, Line.settled, reads]
  have ended : Line.Inbox.read? ⟨[], .ended⟩ = some (.finished, ⟨[], .ended⟩) := rfl
  have asks : Request.ofLine ("ECHO " ++ replacements n) = .echo (replacements n) := by
    rw [Request.ofLine, (clean_brokenEcho n).trim_eq, ofText_eq_echo_iff]
  generalize brokenEcho n ++ [Line.terminator] = bytes, "ECHO " ++ replacements n = line at *
  have course : Course "a" ⟨"a", 0, .over, ⟨[], .ended⟩, [replacements n], none⟩
      [.arrived bytes, .act .enter, .act (.note (.connected 1)),
        .act (.note (.received bytes.length)), .act (.note (.processing line)),
        .asked ⟨line, "noon", 1⟩, .act (.note .disconnected), .act .leave,
        .act (.note (.closed 0))] := by
    refine Machine.reaches_of_run [.receive bytes, .finish, .turn "noon" 0, .turn "noon" 1,
      .turn "noon" 1, .turn "noon" 1, .turn "noon" 1, .turn "noon" 1, .turn "noon" 1,
      .turn "noon" 1, .turn "noon" 0] ?_
    simp [Machine.run, step, hearing, asking, turn, new, receive, finish, Line.Inbox.receive,
      Line.Inbox.finish, Line.Inbox.empty, read, ended, afterReading, reply, asks,
      Request.respond]
  refine ⟨_, _, course, ⟨[], by simp, .inr rfl⟩, ?_, rfl, rfl⟩
  intro q here
  obtain rfl : q = ⟨line, "noon", 1⟩ := by simpa using here
  have plain : (Question.mk "" "noon" 1).Plain := by decide
  exact ⟨plain.clean, plain.fits, plain.word⟩

/-- **Not every reply can be read on the other side**: the echo of 1366 broken bytes takes 4099
bytes, and reading it comes to trouble. -/
theorem echo_not_readable :
    ∃ s es, Course "a" s es ∧ Sends (brokenEcho 1366 ++ [Line.terminator]) s es ∧
      (∀ q ∈ asked es, q.Plain) ∧ s.phase = .over ∧ s.sent = [replacements 1366] ∧
      s.output.length = 4099 ∧ (Line.all s.output).head? = some (.trouble .tooLong) := by
  have short : (brokenEcho 1366).length < Line.limit := by
    rw [brokenEcho, List.length_append, List.length_replicate]
    decide
  obtain ⟨s, es, course, sends, plain, past, sent⟩ := exists_course_of_brokenEcho short
  have output : s.output = Line.write (replacements 1366) := by
    rw [output, sent, List.flatMap_singleton]
  have length : (Line.write (replacements 1366)).length = 4099 := by
    rw [Line.write, List.length_append, Utf8.length_encode, replacements, String.toList_ofList,
      List.map_replicate, List.sum_replicate_nat]
    decide
  refine ⟨s, es, course, sends, plain, past, sent, output ▸ length, ?_⟩
  have free : '\n' ∉ (replacements 1366).toList := by
    rw [replacements, String.toList_ofList]
    intro found
    exact absurd (List.eq_of_mem_replicate found) (by decide)
  have long : ¬ Line.Fits (replacements 1366) := by
    rw [Line.Fits, length]
    decide
  have first := Line.next_write_append_of_long free long []
  rw [List.append_nil] at first
  rw [output, Line.all_of_ne_nil (by simp [Line.write]), first, List.head?_cons]

end LineService.Session
