import LineService.Proofs.Journal.Lines
import LineService.Proofs.Line.Calls
import LineService.Proofs.Session.Readable

/-!
# What a client cannot forge

A client chooses every byte that it sends, and what it has sent is echoed to it and reported in
the journal.  Both are read line by line, so a line feed of the client's would pass for the end
of a line of the service's own.

None gets so far.  A line that is read has no line feed (`Line.Frames.clean`), so neither has one
that is put to a session or reported by it (`Course.legible`), nor the answer
(`Course.answer_clean`).  What is sent has as many line feeds as answers (`Course.count_output`),
and every record of a session is written as one line (`Course.oneLine`).  The clock, the address
of the client and the words of the system are not the client's; what is asked of them is said
where it is needed.
-/

set_option autoImplicit false

namespace LineService.Session

variable {s t : Session} {peer text : String} {l : Label} {es fs : List Event} {n : Notice}

/-! ## Lines that are put to a session -/

/-- The line that a notice passes on. -/
def Notice.line? : Notice → Option String
  | .processing line => some line
  | _ => none

/-- The fault that a notice reports. -/
def Notice.fault? : Notice → Option Net.Fault
  | .receiveFailed (.fault f) | .sendFailed f => some f
  | _ => none

/-- All that a session has taken for a line of its client is the text of a line. -/
structure Legible (s : Session) (es : List Event) : Prop where
  asked : ∀ q ∈ asked es, Line.Clean q.line
  noted : ∀ n line, .act (.note n) ∈ es → n.line? = some line → Line.Clean line
  answering : ∀ line, s.phase = .answering line → Line.Clean line

/-- What neither reads a line nor asks one keeps what has been read legible. -/
theorem Legible.keep (legible : Legible s es) (asks : Session.asked fs = [])
    (notes : ∀ n, .act (.note n) ∈ fs → n.line? = none)
    (phase : ∀ line, t.phase = .answering line → s.phase = .answering line) :
    Legible t (es ++ fs) where
  asked q member := by
    rw [asked_append, asks, List.append_nil] at member
    exact legible.asked q member
  noted n line member passes := by
    rcases List.mem_append.mp member with earlier | now
    · exact legible.noted n line earlier passes
    · rw [notes n now] at passes
      cases passes
  answering line here := legible.answering line (phase line here)

/-- One turn keeps all lines legible. -/
theorem Legible.turn (legible : Legible s es) (turn : Turn s l t fs) : Legible t (es ++ fs) := by
  cases turn with
  | @read now active text size i reading took =>
      have clean : Line.Clean text := took.clean
      refine ⟨fun q member => ?_, fun n line member passes => ?_, fun line here => ?_⟩
      · exact legible.asked q (by simpa using member)
      · rcases List.mem_append.mp member with earlier | now
        · exact legible.noted n line earlier passes
        · simp only [List.mem_cons, Event.act.injEq, Act.note.injEq, List.not_mem_nil,
            or_false] at now
          rcases now with rfl | rfl
          · cases passes
          · cases passes
            exact clean
      · cases here
        exact clean
  | @asked now active line answering =>
      refine ⟨fun q member => ?_, fun n line member passes => ?_, nofun⟩
      · rcases List.mem_append.mp (asked_append .. ▸ member) with earlier | here
        · exact legible.asked q earlier
        · obtain rfl : q = ⟨line, now, active⟩ := by simpa using here
          exact legible.answering line answering
      · exact legible.noted n line (by simpa using member) passes
  | aside _ _ _ phase => exact legible.keep rfl (by simp) (by simp [phase])
  | received => exact legible.keep rfl (by simp) (by simp)
  | _ => exact legible.keep rfl (by simp [Notice.line?]) (by simp)

/-- **Whatever a client sends, only texts of lines are put to its session.** -/
theorem Course.legible (course : Course peer s es) : Legible s es := by
  induction course with
  | refl => exact ⟨by simp, by simp, by simp [new]⟩
  | tail before taken ih => exact ih.turn (turn_of_step taken)

/-! ## What is sent -/

/-- The clock shows a moment whenever a session looks at it. -/
def Timed (es : List Event) : Prop := ∀ q ∈ asked es, ∃ m : Moment, q.now = m.write

/-- Every answer is the text of a line. -/
theorem Course.answer_clean (course : Course peer s es) (timed : Timed es) {q : Question}
    (here : q ∈ asked es) : Line.Clean q.answer := by
  obtain ⟨m, shown⟩ := timed q here
  exact clean_answer (course.legible.asked q here) (shown ▸ m.clean_write)

/-- Texts without line feeds are written with one line feed each. -/
theorem count_write {texts : List String} (free : ∀ text ∈ texts, Text.Flat text) :
    (texts.flatMap Line.write).count Line.terminator = texts.length := by
  induction texts with
  | nil => rfl
  | cons text texts ih =>
      rw [List.forall_mem_cons] at free
      have noFeed : (Utf8.encode text).count Line.terminator = 0 :=
        List.count_eq_zero.mpr (Line.terminator_not_mem_encode free.1)
      rw [List.flatMap_cons, List.count_append, ih free.2, Line.write, List.count_append, noFeed,
        List.count_singleton_self, List.length_cons]
      omega

/-- **A session writes one line feed for each question that it has answered.** -/
theorem Course.count_output (course : Course peer s es) (timed : Timed es) :
    s.output.count Line.terminator = s.sent.length := by
  refine count_write fun text sent => ?_
  rw [course.sent_eq_take] at sent
  obtain ⟨q, early, rfl⟩ := List.mem_map.mp sent
  exact (course.answer_clean timed (List.mem_of_mem_take early)).flat

/-! ## What is reported -/

/-- A notice is reported without line feeds when the parts of its record have none. -/
theorem Notice.flat_record (n : Notice) (id : UInt32) (address : Text.Flat peer)
    (line : ∀ line, n.line? = some line → Text.Flat line)
    (fault : ∀ f, n.fault? = some f → Text.Flat f.text) : Text.Flat (n.record peer id).text := by
  cases n with
  | processing text =>
      simp only [Notice.record, Text.flat_append, address, line text rfl, and_true]
      decide
  | receiveFailed t =>
      have trouble : Text.Flat t.message :=
        Line.Trouble.flat_message fun f broken => fault f (by rw [broken]; rfl)
      simp only [Notice.record, Text.flat_append, Text.flat_toString, address, trouble, true_and,
        and_true]
      decide
  | sendFailed f =>
      have message : Text.Flat f.message := Net.Fault.flat_message (fault f rfl)
      simp only [Notice.record, Text.flat_append, Text.flat_toString, address, message, true_and,
        and_true]
      decide
  | _ =>
      simp only [Notice.record, Text.flat_append, Text.flat_toString, address, true_and, and_true]
      decide

/-- **Every record of a session is written as one line**, whatever its client has sent. -/
theorem Course.oneLine (course : Course peer s es) (address : Text.Flat peer)
    (noted : .act (.note n) ∈ es) (fault : ∀ f, n.fault? = some f → Text.Flat f.text)
    (id : UInt32) (m : Moment) : Journal.OneLine ((n.record peer id).line m.write) := by
  have line : ∀ line, n.line? = some line → Text.Flat line :=
    fun line passes => (course.legible.noted n line noted passes).flat
  exact Journal.Record.oneLine_line m.clean_write.flat (n.flat_record id address line fault)

/-- **A client cannot forge lines**, whatever bytes it sends, in whatever segments and whatever
else happens to its session:

* every line that is read, and so every line that is put to its session, is the text of a line, and
  so is every answer;
* what is sent are the answers to the first questions, with one line feed each and no other;
* every record of its session is written as one line, whenever that is, if the client's address and
  the words of the system in it have no line feed. -/
theorem client_forges_no_line (course : Course peer s es) (timed : Timed es) :
    (∀ (i j : Line.Inbox) (text : String) (size : Nat), i.read? = some (.line text size, j) →
      Line.Clean text) ∧
    (∀ q ∈ asked es, Line.Clean q.line ∧ Line.Clean q.answer) ∧
    s.sent = ((asked es).take s.sent.length).map Question.answer ∧
    s.output.count Line.terminator = s.sent.length ∧
    (Text.Flat peer → ∀ n, .act (.note n) ∈ es →
      (∀ f, n.fault? = some f → Text.Flat f.text) → ∀ (id : UInt32) (m : Moment),
        Journal.OneLine ((n.record peer id).line m.write)) := by
  refine ⟨fun i j text size taken => (Line.Inbox.read_of_read? taken).clean, fun q here => ?_,
    course.sent_eq_take, course.count_output timed,
    fun address n noted fault id m => course.oneLine address noted fault id m⟩
  exact ⟨course.legible.asked q here, course.answer_clean timed here⟩

/-- A carriage return within a message is echoed, those before the line feed are not, and neither
the reply nor the record of the command has a line feed but its own. -/
theorem client_forges_no_line_returns :
    ∃ s es, Course "a" s es ∧ Timed es ∧ arrived es = Utf8.encode "ECHO x\ry\r\r\n" ∧
      s.sent = ["x\ry"] ∧ s.output.count Line.terminator = 1 ∧
      (∀ (id : UInt32) (m : Moment), Journal.OneLine
        (((Notice.processing "ECHO x\ry").record "a" id).line m.write)) := by
  obtain ⟨now, shown⟩ : ∃ now, now = (⟨2024, 2, 29, 12, 0, 0⟩ : Moment).write := ⟨_, rfl⟩
  have course : Course "a" ⟨"a", 0, .reading, ⟨[], .expecting⟩, ["x\ry"], none⟩
      [.act .enter, .act (.note (.connected 1)), .arrived (Utf8.encode "ECHO x\ry\r\r\n"),
        .act (.note (.received 11)), .act (.note (.processing "ECHO x\ry")),
        .asked ⟨"ECHO x\ry", now, 1⟩] :=
    Machine.reaches_of_run [.turn now 0, .turn now 1, .receive (Utf8.encode "ECHO x\ry\r\r\n"),
      .turn now 1, .turn now 1, .turn now 1] rfl
  have timed : Timed [.act .enter, .act (.note (.connected 1)),
      .arrived (Utf8.encode "ECHO x\ry\r\r\n"), .act (.note (.received 11)),
      .act (.note (.processing "ECHO x\ry")), .asked ⟨"ECHO x\ry", now, 1⟩] := by
    intro q here
    obtain rfl : q = ⟨"ECHO x\ry", now, 1⟩ := by simpa using here
    exact ⟨_, shown⟩
  obtain ⟨-, -, -, count, records⟩ := client_forges_no_line course timed
  exact ⟨_, _, course, timed, by simp, rfl, count, records (by decide) _ (by simp) nofun⟩

end LineService.Session
