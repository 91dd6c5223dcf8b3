import LineService.Proofs.Session.Answers

/-!
# Sessions with the same bytes

Two sessions whose clients send the same bytes are told the same, whoever their clients are,
however the bytes arrive and whatever else goes on: only the text of the clock and the number of
clients can differ (`Alike`).  This holds at every moment (`Course.likeness`), also where a
connection breaks or sending fails; then one of the two is told less than the other.

What has been sent answers the first lines of the agenda (`Course.answered_lines`).  For a
connection that has not broken this follows from what is ahead of the session.  One that has broken
can send nothing any more (`Course.mute_of_broken`), so all that it has sent it had sent before.
-/

set_option autoImplicit false

namespace LineService.Session

variable {s t : Session} {peer peer' : String} {l : Label} {es fs : List Event}
  {bytes more : List UInt8}

/-! ## Texts that answer the same line -/

/-- Two answers to a line that differ at most in the text of the clock, if the line asks for the
time, or in the number of clients, if it asks for that. -/
inductive Alike (line : String) : String → String → Prop where
  | same (text : String) : Alike line text text
  | time (now now' : String) (asked : Request.ofLine line = .time) : Alike line now now'
  | stats (active active' : Nat) (asked : Request.ofLine line = .stats) :
      Alike line (Response.activeClients active) (Response.activeClients active')

/-- An answer depends on the line, and on the clock and the number of clients only where the line
asks for them. -/
theorem alike_of_line {q r : Question} (same : q.line = r.line) :
    Alike q.line q.answer r.answer := by
  obtain ⟨line, now, active⟩ := q
  obtain ⟨_, now', active'⟩ := r
  cases same
  simp only [Question.answer]
  cases asked : Request.ofLine line with
  | time => exact .time now now' asked
  | stats => exact .stats active active' asked
  | _ => exact .same _

/-- A line that asks for neither the time nor the number of clients has one answer. -/
theorem Alike.eq {line a b : String} (alike : Alike line a b)
    (time : Request.ofLine line ≠ .time) (stats : Request.ofLine line ≠ .stats) : a = b := by
  cases alike with
  | same => rfl
  | time _ _ asked => exact absurd asked time
  | stats _ _ asked => exact absurd asked stats

/-! ## What has been sent -/

/-- Nothing can be sent on a connection that has broken. -/
theorem Course.mute_of_broken (course : Course peer s es) {f : Net.Fault}
    (broken : s.inbox.outlook = .broken f) : s.mute ≠ none := by
  induction course with
  | refl => cases broken
  | @tail s t es fs l before taken ih =>
      cases l with
      | receive bytes =>
          cases taken
          simp only [receive, Line.Inbox.receive] at broken
          split at broken <;> exact ih broken
      | finish =>
          cases taken
          simp only [finish, Line.Inbox.finish] at broken
          split at broken
          · cases broken
          · exact ih broken
      | sever | silence =>
          cases taken
          simp [sever, silence]
      | number =>
          cases taken
          exact ih broken
      | discard =>
          simp only [step, Option.ite_none_right_eq_some, Option.some.injEq, Prod.mk.injEq] at taken
          obtain ⟨-, rfl, -⟩ := taken
          exact ih broken
      | turn =>
          rw [mute_eq_of_turn taken]
          exact ih (outlook_of_turn taken ▸ broken)

/-- When a connection breaks, and after that, nothing arrives. -/
theorem nothing_of_broken (turn : Turn s l t fs) {f : Net.Fault}
    (broken : t.inbox.outlook = .broken f) : arrived fs = [] := by
  cases turn with
  | received _ expecting => cases expecting.symm.trans broken
  | _ => rfl

/-- Nothing is sent by the step by which a connection breaks. -/
theorem sent_of_broken (turn : Turn s l t fs) {f : Net.Fault}
    (broken : t.inbox.outlook = .broken f) (sound : ∀ g, s.inbox.outlook ≠ .broken g) :
    t.sent = s.sent := by
  cases turn with
  | aside _ _ _ _ sent => exact sent
  | received | discarded | entered | greeted | asked | answered | answeredLast | unsent | closed
  | wentOut | ended => exact absurd broken (sound f)
  | read _ _ _ took | heardOut _ _ _ took | troubled _ _ _ took => rfl

/-- A session is asked the first lines of the agenda, as long as the connection does not break. -/
theorem Course.asked_lines (course : Course peer s es) (sound : ∀ f, s.inbox.outlook ≠ .broken f)
    (rest : s.inbox.outlook = .expecting ∨ more = []) :
    (asked es).map Question.line <+: agenda (Line.all (arrived es ++ more)) := by
  rcases course.follows sound rest with all | ⟨-, -, begun⟩
  · exact ⟨_, all.symm⟩
  · exact begun

/-- Every reply was asked for. -/
theorem Course.sent_le_asked (course : Course peer s es) : s.sent.length ≤ (asked es).length := by
  obtain ⟨owed, answers, -⟩ := course.answers
  have lengths := congrArg List.length answers
  simp only [List.length_map, List.length_append] at lengths
  omega

/-- **What has been sent answers the first lines of the agenda**, whatever has become of the
connection. -/
theorem Course.answered_lines (course : Course peer s es)
    (rest : s.inbox.outlook = .expecting ∨ more = []) :
    ((asked es).take s.sent.length).map Question.line <+:
      agenda (Line.all (arrived es ++ more)) := by
  induction course with
  | refl => simp [new]
  | @tail s t es fs l before taken ih =>
      by_cases sound : ∀ f, t.inbox.outlook ≠ .broken f
      · have course : Course peer t (es ++ fs) := Machine.Reaches.tail before taken
        rw [List.map_take]
        exact (List.take_prefix _ _).trans (course.asked_lines sound rest)
      · obtain ⟨f, broken⟩ := by simpa using sound
        have turn := turn_of_step taken
        have nothing : more = [] := by simpa [broken] using rest
        have sent : t.sent = s.sent := by
          by_cases earlier : ∀ g, s.inbox.outlook ≠ .broken g
          · exact sent_of_broken turn broken earlier
          · obtain ⟨g, already⟩ := by simpa using earlier
            exact (mute_of_turn turn (Course.mute_of_broken before already)).2
        rw [arrived_append, nothing_of_broken turn broken, List.append_nil, sent, asked_append,
          List.take_append_of_le_length (Course.sent_le_asked before)]
        exact ih (.inr nothing)

/-- What has been sent in a place answers the question in that place, which puts the line in that
place of the agenda. -/
theorem Course.sent_question (course : Course peer s es) (sends : Sends bytes s es) {k : Nat}
    {text : String} (sent : s.sent[k]? = some text) :
    ∃ q, (asked es)[k]? = some q ∧ (agenda (Line.all bytes))[k]? = some q.line ∧
      text = q.answer := by
  obtain ⟨more, rfl, rest⟩ := sends
  obtain ⟨owed, answers, -⟩ := course.answers
  have less : k < s.sent.length := (List.getElem?_eq_some_iff.mp sent).1
  have place : ((asked es).map Question.answer)[k]? = some text := by
    rw [answers, List.getElem?_append_left less, sent]
  rw [List.getElem?_map, Option.map_eq_some_iff] at place
  obtain ⟨q, here, rfl⟩ := place
  obtain ⟨others, lines⟩ := course.answered_lines rest
  refine ⟨q, here, ?_, rfl⟩
  rw [← lines, List.getElem?_append_left, List.getElem?_map, List.getElem?_take_of_lt less, here]
  · rfl
  · have asked := (List.getElem?_eq_some_iff.mp here).1
    rw [List.length_map, List.length_take]
    omega

/-- What has been sent in a place answers the line in that place of the agenda. -/
theorem Course.sent_line (course : Course peer s es) (sends : Sends bytes s es) {k : Nat}
    {text : String} (sent : s.sent[k]? = some text) :
    ∃ q : Question, (agenda (Line.all bytes))[k]? = some q.line ∧ text = q.answer := by
  obtain ⟨q, -, line, answer⟩ := course.sent_question sends sent
  exact ⟨q, line, answer⟩

theorem Course.sent_length_le (course : Course peer s es) (sends : Sends bytes s es) :
    s.sent.length ≤ (agenda (Line.all bytes)).length := by
  refine Nat.le_of_not_lt fun long => ?_
  have last := List.getElem?_eq_getElem long
  obtain ⟨q, beyond, -⟩ := course.sent_line sends last
  rw [List.getElem?_eq_none (Nat.le_refl _)] at beyond
  cases beyond

/-! ## Two sessions -/

/-- A session that has come to its end and could send everything. -/
def Complete (s : Session) : Prop := s.phase = .over ∧ s.mute = none

/-- A complete session has answered all there was to answer. -/
theorem Course.sent_length (course : Course peer s es) (sends : Sends bytes s es)
    (complete : s.Complete) : s.sent.length = (agenda (Line.all bytes)).length := by
  obtain ⟨past, able⟩ := complete
  have sound : ∀ f, s.inbox.outlook ≠ .broken f := fun f broken =>
    course.mute_of_broken broken able
  exact (course.answered sends past sound).sent_length able

/-- What two sessions whose clients send `bytes` have in common. -/
structure Likeness (bytes : List UInt8) (s t : Session) : Prop where
  /-- What the two send in the same place answers the same line of the stream, alike. -/
  alike : ∀ (k : Nat) a b, s.sent[k]? = some a → t.sent[k]? = some b →
    ∃ line, (agenda (Line.all bytes))[k]? = some line ∧ Alike line a b
  /-- Neither is sent more than one that is complete. -/
  le_left : s.Complete → t.sent.length ≤ s.sent.length
  le_right : t.Complete → s.sent.length ≤ t.sent.length
  /-- Complete sessions are sent the same bytes if no line asks for the time or the number of
  clients. -/
  output : s.Complete → t.Complete →
    (∀ line ∈ agenda (Line.all bytes),
      Request.ofLine line ≠ .time ∧ Request.ofLine line ≠ .stats) → s.output = t.output

/-- **Sessions with the same bytes are told the same** but for the time and the number of
clients. -/
theorem Course.likeness (course : Course peer s es) (sends : Sends bytes s es)
    (course' : Course peer' t fs) (sends' : Sends bytes t fs) : Likeness bytes s t := by
  have alike (k : Nat) (a b : String) (here : s.sent[k]? = some a) (there : t.sent[k]? = some b) :
      ∃ line, (agenda (Line.all bytes))[k]? = some line ∧ Alike line a b := by
    obtain ⟨q, line, rfl⟩ := course.sent_line sends here
    obtain ⟨r, line', rfl⟩ := course'.sent_line sends' there
    exact ⟨q.line, line, alike_of_line (Option.some.inj (line.symm.trans line'))⟩
  refine ⟨alike, fun complete => ?_, fun complete => ?_, fun complete complete' plain => ?_⟩
  · rw [course.sent_length sends complete]
    exact course'.sent_length_le sends'
  · rw [course'.sent_length sends' complete]
    exact course.sent_length_le sends
  · have length : s.sent.length = t.sent.length := by
      rw [course.sent_length sends complete, course'.sent_length sends' complete']
    have sent : s.sent = t.sent := by
      refine List.ext_getElem length fun k less less' => ?_
      obtain ⟨line, place, alike⟩ :=
        alike k _ _ (List.getElem?_eq_getElem less) (List.getElem?_eq_getElem less')
      obtain ⟨time, stats⟩ := plain line (List.mem_of_getElem? place)
      exact alike.eq time stats
    rw [Session.output, Session.output, sent]

end LineService.Session
