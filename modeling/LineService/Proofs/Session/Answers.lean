import LineService.Proofs.Request.Wire
import LineService.Proofs.Session.Turns

/-!
# What a session answers

`agenda` says of a whole stream which of its lines are answered: all of them up to the first
that asks to quit, but none from the first piece on that is too long.  A session is asked these
lines and no others, in their order, however the stream arrives, and it sends their answers in
the same order until sending fails.

Two facts hold all along a course.  What has been sent are the answers to what has been asked,
but for an answer that is due or could not be sent (`Course.answers`).  And what has been asked,
with what is still ahead, is the agenda of the stream, as long as the connection does not break
(`Course.lines`).  At the end nothing is ahead, which gives `session_answers`.
-/

set_option autoImplicit false

namespace LineService.Session

variable {s t : Session} {peer : String} {l : Label} {es fs : List Event} {bytes : List UInt8}

/-! ## Looking at a course -/

/-- The bytes that arrive with an event. -/
@[simp] def Event.heard : Event → List UInt8
  | .arrived bytes => bytes
  | _ => []

/-- The question that an event is. -/
@[simp] def Event.question? : Event → Option Question
  | .asked q => some q
  | _ => none

/-- The client is counted, or counted out. -/
@[simp] def Event.passage? : Event → Option Act
  | .act .enter => some .enter
  | .act .leave => some .leave
  | _ => none

/-- The bytes that have arrived. -/
def arrived (es : List Event) : List UInt8 := es.flatMap Event.heard

/-- The questions, the oldest first. -/
def asked (es : List Event) : List Question := es.filterMap Event.question?

/-- How often the client has been counted and counted out, in this order. -/
def counting (es : List Event) : List Act := es.filterMap Event.passage?

@[simp] theorem arrived_nil : arrived [] = [] := rfl

@[simp] theorem arrived_cons (e : Event) (es : List Event) :
    arrived (e :: es) = e.heard ++ arrived es := List.flatMap_cons

@[simp] theorem arrived_append (es fs : List Event) :
    arrived (es ++ fs) = arrived es ++ arrived fs := List.flatMap_append

@[simp] theorem asked_nil : asked [] = [] := rfl

@[simp] theorem asked_cons (e : Event) (es : List Event) :
    asked (e :: es) = e.question?.toList ++ asked es := by
  cases question : e.question? <;> simp only [asked, List.filterMap_cons, question] <;> rfl

@[simp] theorem asked_append (es fs : List Event) : asked (es ++ fs) = asked es ++ asked fs :=
  List.filterMap_append

@[simp] theorem counting_nil : counting [] = [] := rfl

@[simp] theorem counting_cons (e : Event) (es : List Event) :
    counting (e :: es) = e.passage?.toList ++ counting es := by
  cases passage : e.passage? <;> simp only [counting, List.filterMap_cons, passage] <;> rfl

@[simp] theorem counting_append (es fs : List Event) :
    counting (es ++ fs) = counting es ++ counting fs := List.filterMap_append

/-- The client sends `bytes` in all: those that have arrived, and others only while the stream
has not ended. -/
def Sends (bytes : List UInt8) (s : Session) (es : List Event) : Prop :=
  ∃ more, bytes = arrived es ++ more ∧ (s.inbox.outlook = .expecting ∨ more = [])

theorem arrived_of_turn {now : String} {active : Nat}
    (taken : s.step (.turn now active) = some (t, es)) : arrived es = [] := by
  generalize turning : Label.turn now active = l at taken
  cases turn_of_step taken with
  | received => cases turning
  | _ => rfl

/-! ## The lines of a stream that are answered -/

/-- The lines that are answered: all up to the first that asks to quit, and none from the first
piece on that is too long. -/
def agenda : List Line.Reading → List String
  | .line text _ :: rest =>
    if Line.trim text = "QUIT" then [text] else text :: agenda rest
  | _ => []

theorem ofText_eq_quit_iff {text : String} : Request.ofText text = .quit ↔ text = "QUIT" :=
  Request.ofText_eq_iff Request.noConfusion

/-- The connection is closed after the answer to `QUIT`, and after no other. -/
theorem closes_iff {line now : String} {active : Nat} :
    ((Request.ofLine line).respond now active).closes = true ↔ Line.trim line = "QUIT" := by
  rw [← ofText_eq_quit_iff]
  change ((Request.ofText (Line.trim line)).respond now active).closes = true ↔ _
  cases Request.ofText (Line.trim line) <;> simp [Request.respond]

/-- What is answered after a line depends on the answer to that line alone. -/
theorem agenda_line (line : String) (size : Nat) (rest : List Line.Reading) (now : String)
    (active : Nat) :
    agenda (.line line size :: rest) =
      line :: if ((Request.ofLine line).respond now active).closes then [] else agenda rest := by
  by_cases quits : Line.trim line = "QUIT"
  · simp [agenda, quits, closes_iff.mpr quits]
  · simp [agenda, quits, mt closes_iff.mp quits]

/-! ## What is still to come -/

/-- The stream is about to be closed, or has been closed after the client was served. -/
def Ending (s : Session) : Prop :=
  s.phase = .closing ∨ s.phase = .leaving ∨ s.phase = .left ∨ s.phase = .over

/-- The lines that a session is still to be asked if everything it sends arrives and `rest` is
what the stream still says. -/
def ahead (s : Session) (rest : List Line.Reading) : List String :=
  match s.phase with
  | .answering line => agenda (.line line 0 :: rest)
  | .replying r => if r.closes then [] else agenda rest
  | .closing | .leaving | .left | .over => []
  | .fresh | .counted | .reading | .discarded => agenda rest

/-- The answers to what has been asked that have not been sent. -/
inductive Owes (s : Session) : List String → Prop where
  | nothing (nothing : ∀ r, s.phase ≠ .replying r) : Owes s []
  | due {r : Response} (replying : s.phase = .replying r) : Owes s [r.text]
  /-- Sending this one has failed. -/
  | unsent (text : String) (ending : s.Ending) (mute : s.mute ≠ none) : Owes s [text]

theorem Owes.length_le {owed : List String} (owes : s.Owes owed) : owed.length ≤ 1 := by
  cases owes <;> simp

/-- What a turn needs of the phase is known, so is what is owed. -/
theorem Owes.eq_nil {owed : List String} (owes : s.Owes owed)
    (silent : ∀ r, s.phase ≠ .replying r) (going : ¬ s.Ending) : owed = [] := by
  cases owes with
  | nothing => rfl
  | due replying => exact absurd replying (silent _)
  | unsent _ ending => exact absurd ending going

theorem Owes.eq_due {owed : List String} (owes : s.Owes owed) {r : Response}
    (replying : s.phase = .replying r) : owed = [r.text] := by
  cases owes with
  | nothing silent => exact absurd replying (silent r)
  | due other =>
      cases replying.symm.trans other
      rfl
  | unsent _ ending => simp [Ending, replying] at ending

/-- What is owed at the end stays owed. -/
theorem Owes.ending {owed : List String} (owes : s.Owes owed) (before : s.Ending) (after : t.Ending)
    (mute : s.mute ≠ none → t.mute ≠ none) : t.Owes owed := by
  cases owes with
  | nothing =>
      refine .nothing fun r replying => ?_
      simp [Ending, replying] at after
  | due replying => simp [Ending, replying] at before
  | unsent text _ unable => exact .unsent text after (mute unable)

/-! ## What holds all along a course -/

/-- One turn keeps answers and questions together. -/
theorem answers_of_turn (turn : Turn s l t fs)
    (kept : ∃ owed, (asked es).map Question.answer = s.sent ++ owed ∧ s.Owes owed) :
    ∃ owed, (asked (es ++ fs)).map Question.answer = t.sent ++ owed ∧ t.Owes owed := by
  obtain ⟨owed, answers, owes⟩ := kept
  -- phases in which nothing can be owed, before and after
  have quiet (silent : ∀ r, s.phase ≠ .replying r) (going : ¬ s.Ending) :
      (asked es).map Question.answer = s.sent := by
    rw [answers, owes.eq_nil silent going, List.append_nil]
  cases turn with
  | received bytes =>
      refine ⟨owed, by simpa using answers, ?_⟩
      cases owes with
      | nothing silent => exact .nothing silent
      | due replying => exact .due replying
      | unsent text ending mute => exact .unsent text ending mute
  | aside _ _ _ phase sent _ _ mute =>
      refine ⟨owed, by simpa [sent] using answers, ?_⟩
      cases owes with
      | nothing silent => exact .nothing (phase ▸ silent)
      | due replying => exact .due (phase.trans replying)
      | unsent text ending unable =>
          exact .unsent text (by simpa only [Ending, phase] using ending) (mute unable)
  | discarded phase | entered _ _ phase | greeted _ _ phase | read _ _ phase | heardOut _ _ phase
  | troubled _ _ phase =>
      refine ⟨[], ?_, .nothing (by simp)⟩
      simpa using quiet (by simp [phase]) (by simp [Ending, phase])
  | asked now active phase =>
      refine ⟨_, ?_, .due rfl⟩
      have before := quiet (by simp [phase]) (by simp [Ending, phase])
      simp [before, Question.answer]
  | answered _ _ replying | answeredLast _ _ replying =>
      refine ⟨[], ?_, .nothing (by simp)⟩
      rw [owes.eq_due replying] at answers
      simpa using answers
  | @unsent _ _ r f replying unable =>
      refine ⟨_, ?_, .unsent r.text (by simp [Ending]) (by simp [unable])⟩
      rw [owes.eq_due replying] at answers
      simpa using answers
  | closed _ _ phase | wentOut _ _ phase | ended _ _ phase =>
      refine ⟨owed, by simpa using answers, ?_⟩
      exact owes.ending (by simp [Ending, phase]) (by simp [Ending]) fun mute => mute

/-- **What a session has sent are the answers to what it has been asked**, in the same order;
at most the last one is missing. -/
theorem Course.answers (course : Course peer s es) :
    ∃ owed, (asked es).map Question.answer = s.sent ++ owed ∧ s.Owes owed := by
  induction course with
  | refl => exact ⟨[], rfl, .nothing (by simp [new])⟩
  | tail _ taken ih => exact answers_of_turn (turn_of_step taken) ih

/-- What the agenda of a stream and what a session has been asked have to do with each other:
either the rest is still ahead, or a reply could not be sent and nothing more is asked. -/
def Follows (s : Session) (es : List Event) (more : List UInt8) : Prop :=
  agenda (Line.all (arrived es ++ more)) =
      (asked es).map Question.line ++ s.ahead (Line.all (s.inbox.pending ++ more)) ∨
    s.Ending ∧ (asked es).length = s.sent.length + 1 ∧
      (asked es).map Question.line <+: agenda (Line.all (arrived es ++ more))

/-- One turn follows the agenda, whatever is still to come. -/
theorem follows_of_turn (turn : Turn s l t fs) (sound : ∀ f, t.inbox.outlook ≠ .broken f)
    (answers : ∃ owed, (asked es).map Question.answer = s.sent ++ owed ∧ s.Owes owed)
    (kept : ∀ more, s.inbox.outlook = .expecting ∨ more = [] → s.Follows es more)
    {more : List UInt8} (rest : t.inbox.outlook = .expecting ∨ more = []) :
    t.Follows (es ++ fs) more := by
  cases turn with
  | received bytes expecting =>
      have later := kept (bytes ++ more) (.inl expecting)
      simpa [Follows, ahead, Ending] using later
  | aside _ _ _ phase sent pending heard =>
      have before : s.inbox.outlook = .expecting ∨ more = [] := by
        rcases heard with same | expecting
        · exact same ▸ rest
        · exact .inl expecting
      simpa [Follows, ahead, Ending, phase, sent, pending] using kept more before
  | discarded phase | entered _ _ phase | greeted _ _ phase =>
      have before := kept more rest
      simpa [Follows, ahead, Ending, phase] using before
  | @read _ _ text size i reading took =>
      have before := kept more (took.outlook_eq ▸ rest)
      have first := took.all_append (by simp) (took.outlook_eq ▸ rest)
      simp only [reduceCtorEq, false_and, ne_eq, not_false_eq_true, true_and, false_or] at first
      left
      simpa [Follows, ahead, Ending, reading, first, agenda] using before
  | heardOut _ _ reading took =>
      have before := kept more (took.outlook_eq ▸ rest)
      have first := took.all_append (by simp) (took.outlook_eq ▸ rest)
      simp only [true_and, ne_eq, not_true_eq_false, false_and, or_false] at first
      left
      simpa [Follows, ahead, Ending, reading, first, agenda] using before
  | @troubled _ _ trouble i reading took =>
      have before := kept more (took.outlook_eq ▸ rest)
      have first := took.all_append (fun f fault => by
        cases fault
        exact sound f (took.outlook_eq.trans took.broken_of_fault)) (took.outlook_eq ▸ rest)
      simp only [reduceCtorEq, false_and, ne_eq, not_false_eq_true, true_and, false_or] at first
      left
      simpa [Follows, ahead, Ending, reading, first, agenda] using before
  | asked now active answering =>
      have before := kept more rest
      left
      simpa [Follows, ahead, Ending, answering, agenda_line _ _ _ now active]
        using before
  | answered _ _ replying able last | answeredLast _ _ replying able last =>
      have before := kept more rest
      left
      simpa [Follows, ahead, Ending, replying, last] using before
  | @unsent _ _ r f replying unable =>
      obtain ⟨owed, answers, owes⟩ := answers
      have before := kept more rest
      have one := congrArg List.length answers
      rw [owes.eq_due replying] at one
      refine .inr ⟨by simp [Ending], by simpa using one, ?_⟩
      simp only [Follows, Ending, replying, reduceCtorEq, or_self, false_and, or_false] at before
      simp [before]
  | closed _ _ phase | wentOut _ _ phase | ended _ _ phase =>
      have before := kept more rest
      simpa [Follows, ahead, Ending, phase] using before

/-- A connection that has not broken had not broken before. -/
theorem sound_of_turn (turn : Turn s l t fs) (sound : ∀ f, t.inbox.outlook ≠ .broken f) :
    ∀ f, s.inbox.outlook ≠ .broken f := by
  cases turn with
  | aside _ _ _ _ _ _ heard =>
      rcases heard with same | expecting
      · exact same ▸ sound
      · simp [expecting]
  | read _ _ _ took | heardOut _ _ _ took | troubled _ _ _ took => exact took.outlook_eq ▸ sound
  | _ => exact sound

/-- **A session follows the agenda of its stream** as long as the connection does not break. -/
theorem Course.follows (course : Course peer s es) (sound : ∀ f, s.inbox.outlook ≠ .broken f)
    {more : List UInt8} (rest : s.inbox.outlook = .expecting ∨ more = []) : s.Follows es more := by
  induction course generalizing more with
  | refl => exact .inl (by simp [new, ahead, Line.Inbox.empty])
  | tail before taken ih =>
      have turn := turn_of_step taken
      exact follows_of_turn turn sound (Course.answers before)
        (fun _ => ih (sound_of_turn turn sound)) rest

/-! ## How often a client is counted -/

/-- What the phase of a session says about it. -/
def passages (s : Session) : List Act :=
  match s.phase with
  | .fresh | .discarded => []
  | .left | .over => [.enter, .leave]
  | _ => [.enter]

/-- **A client is counted once when its session begins and counted out once when it ends.** -/
theorem Course.counting_eq (course : Course peer s es) : counting es = s.passages := by
  induction course with
  | refl => rfl
  | tail before taken ih =>
      rw [counting_append, ih]
      cases turn_of_step taken with
      | aside _ _ _ phase => simp [passages, phase]
      | received => simp [passages]
      | discarded phase | entered _ _ phase | greeted _ _ phase | read _ _ phase
      | heardOut _ _ phase | troubled _ _ phase | asked _ _ phase | answered _ _ phase
      | answeredLast _ _ phase | unsent _ _ phase | closed _ _ phase | wentOut _ _ phase
      | ended _ _ phase => simp [passages, phase]

/-- A session that nobody serves has been asked nothing and has sent nothing. -/
theorem Course.silent (course : Course peer s es)
    (unserved : s.phase = .fresh ∨ s.phase = .discarded) : s.sent = [] ∧ asked es = [] := by
  induction course with
  | refl => exact ⟨rfl, rfl⟩
  | tail before taken ih =>
      cases turn_of_step taken with
      | received => simpa using ih unserved
      | aside _ _ _ phase sent => simpa [sent] using ih (phase ▸ unserved)
      | discarded fresh => simpa using ih (.inl fresh)
      | _ => simp at unserved

/-! ## After the end -/

/-- Nothing is done in a session that is over, whatever else its client does. -/
theorem still_of_turn (turn : Turn s l t fs) (past : s.phase = .over) :
    t.phase = .over ∧ t.sent = s.sent ∧ asked fs = [] ∧ counting fs = [] := by
  cases turn with
  | received => exact ⟨past, rfl, rfl, rfl⟩
  | aside _ _ _ phase sent => exact ⟨phase.trans past, sent, rfl, rfl⟩
  | discarded phase | entered _ _ phase | greeted _ _ phase | read _ _ phase
  | heardOut _ _ phase | troubled _ _ phase | asked _ _ phase | answered _ _ phase
  | answeredLast _ _ phase | unsent _ _ phase | closed _ _ phase | wentOut _ _ phase
  | ended _ _ phase => cases past.symm.trans phase

theorem still_of_reaches (later : Machine.Reaches step s t fs) (past : s.phase = .over) :
    t.phase = .over ∧ t.sent = s.sent ∧ asked fs = [] ∧ counting fs = [] := by
  induction later with
  | refl => exact ⟨past, rfl, rfl, rfl⟩
  | tail _ taken ih =>
      obtain ⟨before, sent, asked, counting⟩ := ih
      obtain ⟨after, more, asked', counting'⟩ := still_of_turn (turn_of_step taken) before
      exact ⟨after, more.trans sent, by simp [asked, asked'], by simp [counting, counting']⟩

/-- Nothing is sent once sending fails. -/
theorem mute_of_turn (turn : Turn s l t fs) (mute : s.mute ≠ none) :
    t.mute ≠ none ∧ t.sent = s.sent := by
  cases turn with
  | aside _ _ _ _ sent _ _ kept => exact ⟨kept mute, sent⟩
  | answered _ _ _ able | answeredLast _ _ _ able => exact absurd able mute
  | _ => exact ⟨mute, rfl⟩

theorem mute_of_reaches (later : Machine.Reaches step s t fs) (mute : s.mute ≠ none) :
    t.mute ≠ none ∧ t.sent = s.sent := by
  induction later with
  | refl => exact ⟨mute, rfl⟩
  | tail _ taken ih =>
      obtain ⟨before, sent⟩ := ih
      obtain ⟨after, more⟩ := mute_of_turn (turn_of_step taken) before
      exact ⟨after, more.trans sent⟩

/-! ## The whole session -/

/-- What the session of a client that sends `bytes` in all has come to when it is over. -/
structure Answered (bytes : List UInt8) (s : Session) (es : List Event) : Prop where
  /-- The session was asked the lines that are to be answered, in their order.  If a reply could
  not be sent, it was asked none after that. -/
  lines : (asked es).map Question.line = (agenda (Line.all bytes)).take (s.sent.length + 1)
  /-- The answer to each of them was sent with a line feed, and nothing else. -/
  output : s.output = ((asked es).take s.sent.length).flatMap fun q => Line.write q.answer
  sent_le : s.sent.length ≤ (agenda (Line.all bytes)).length
  /-- Only a reply that cannot be sent ends a session early. -/
  early : s.sent.length < (agenda (Line.all bytes)).length → s.mute ≠ none
  /-- The client was counted once, and counted out once. -/
  counted : counting es = [.enter, .leave]
  /-- Whatever happens later, nothing more is asked, sent or counted. -/
  final {t : Session} {fs : List Event} (later : Machine.Reaches step s t fs) :
    t.output = s.output ∧ asked fs = [] ∧ counting fs = []

/-- What has been sent are the answers to the first questions. -/
theorem Course.sent_eq_take (course : Course peer s es) :
    s.sent = ((asked es).take s.sent.length).map Question.answer := by
  obtain ⟨owed, answers, -⟩ := course.answers
  rw [List.map_take, answers, List.take_left]

/-- The questions that have been answered, and nothing else, make up the output. -/
theorem Course.output_eq (course : Course peer s es) :
    s.output = ((asked es).take s.sent.length).flatMap fun q => Line.write q.answer := by
  calc s.output = s.sent.flatMap Line.write := rfl
    _ = (((asked es).take s.sent.length).map Question.answer).flatMap Line.write := by
        rw [← course.sent_eq_take]
    _ = ((asked es).take s.sent.length).flatMap fun q => Line.write q.answer :=
        List.flatMap_map ..

theorem Course.answered (course : Course peer s es) (sends : Sends bytes s es)
    (past : s.phase = .over) (sound : ∀ f, s.inbox.outlook ≠ .broken f) : Answered bytes s es := by
  obtain ⟨more, rfl, rest⟩ := sends
  obtain ⟨owed, answers, owes⟩ := course.answers
  have lengths := congrArg List.length answers
  simp only [List.length_map, List.length_append] at lengths
  have few := owes.length_le
  -- whether a reply could not be sent or not, the questions are the beginning of the agenda
  obtain ⟨lines, sent_le⟩ : (asked es).map Question.line =
        (agenda (Line.all (arrived es ++ more))).take (s.sent.length + 1) ∧
      s.sent.length ≤ (agenda (Line.all (arrived es ++ more))).length := by
    rcases course.follows sound rest with all | ⟨-, one, begun⟩
    · simp only [ahead, past, List.append_nil] at all
      rw [all]
      refine ⟨(List.take_of_length_le ?_).symm, ?_⟩
      · simp only [List.length_map]
        omega
      · simp only [List.length_map]
        omega
    · have long := begun.length_le
      rw [List.length_map] at long
      refine ⟨?_, by omega⟩
      rw [List.prefix_iff_eq_take.mp begun, List.length_map, one]
  refine ⟨lines, course.output_eq, sent_le, fun short => ?_, ?_, fun later => ?_⟩
  · cases owes with
    | nothing =>
        have asks := congrArg List.length lines
        simp only [List.length_map, List.length_take, List.length_nil] at asks lengths
        omega
    | due replying => cases past.symm.trans replying
    | unsent _ _ mute => exact mute
  · simpa [passages, past] using course.counting_eq
  · obtain ⟨-, sent, nothing, never⟩ := still_of_reaches later past
    exact ⟨by rw [output, output, sent], nothing, never⟩

/-- A session that could send everything has answered all there was to answer. -/
theorem Answered.sent_length (answered : Answered bytes s es) (able : s.mute = none) :
    s.sent.length = (agenda (Line.all bytes)).length :=
  Nat.le_antisymm answered.sent_le (Nat.le_of_not_lt fun short => answered.early short able)

/-- The turns of a session hear nothing. -/
theorem deaf_of_turns {readings : List (String × Nat)}
    (ran : Machine.run step s (turns readings) = some (t, es)) :
    t.inbox.outlook = s.inbox.outlook ∧ arrived es = [] := by
  induction readings generalizing s es with
  | nil =>
      cases ran
      exact ⟨rfl, rfl⟩
  | cons r readings ih =>
      obtain ⟨u, gs, fs, taken, rest, rfl⟩ := Machine.run_cons_eq_some.mp ran
      obtain ⟨outlook, nothing⟩ := ih rest
      refine ⟨outlook.trans (outlook_of_turn taken), ?_⟩
      rw [arrived_append, arrived_of_turn taken, nothing, List.append_nil]

/-- **A session answers its client line by line, and comes to its end.**

Let a client send `bytes` in all, in any segments and at any moments, and let sending fail from
any moment on.

* Once the client has finished, the session comes to its end within `turnBound` turns, whatever
  the time and the number of clients at each of them, and has then done what `Answered` says.
* Every session that is over has done so, unless its connection broke before it was read.
* From the moment on at which sending fails nothing is sent.
* Another session with the same bytes is asked the same lines, however these arrive; with the
  same times and numbers of clients it sends the same bytes. -/
theorem session_answers (course : Course peer s es) (sends : Sends bytes s es) :
    (s.inbox.outlook = .ended → s.phase ≠ .discarded → ∀ readings : Nat → String × Nat,
      ∃ n ≤ s.turnBound, ∃ t fs, t.phase = .over ∧ Answered bytes t (es ++ fs) ∧
        Machine.run step s (turns ((List.range n).map readings)) = some (t, fs)) ∧
    (s.phase = .over → (∀ f, s.inbox.outlook ≠ .broken f) → Answered bytes s es) ∧
    (s.mute ≠ none → ∀ t fs, Machine.Reaches step s t fs → t.output = s.output) ∧
    ∀ {peer' : String} {t : Session} {fs : List Event}, Course peer' t fs → Sends bytes t fs →
      s.phase = .over → t.phase = .over → (∀ f, s.inbox.outlook ≠ .broken f) →
      (∀ f, t.inbox.outlook ≠ .broken f) → s.mute = none → t.mute = none →
      (asked es).map Question.line = (asked fs).map Question.line ∧
        (asked es = asked fs → s.output = t.output) := by
  refine ⟨fun ended served readings => ?_, course.answered sends, fun mute t fs later => ?_, ?_⟩
  · obtain ⟨n, few, t, fs, past, ran⟩ := over_of_turns (by simp [ended]) served readings
    have whole : Course peer t (es ++ fs) := course.trans (Machine.reaches_of_run _ ran)
    obtain ⟨still, heard⟩ := deaf_of_turns ran
    obtain ⟨more, rfl, rest⟩ := sends
    have all : more = [] := by simpa [ended] using rest
    have sends : Sends (arrived es ++ more) t (es ++ fs) := ⟨[], by simp [all, heard], .inr rfl⟩
    exact ⟨n, few, t, fs, past, whole.answered sends past (by simp [still, ended]), ran⟩
  · rw [output, output, (mute_of_reaches later mute).2]
  · intro peer' t fs course' sends' past past' sound sound' able able'
    have first := course.answered sends past sound
    have second := course'.answered sends' past' sound'
    have length := first.sent_length able
    have length' := second.sent_length able'
    refine ⟨by rw [first.lines, second.lines, length, length'], fun same => ?_⟩
    rw [first.output, second.output, same, length, length']

/-- Two lines, the second without a line feed, in pieces that fit no line. -/
theorem session_answers_two_lines :
    ∃ s es, Course "a" s es ∧ Sends (Utf8.encode "PING\nQUIT") s es ∧ s.phase = .over ∧
      s.sent = ["PONG", "Goodbye"] ∧ Answered (Utf8.encode "PING\nQUIT") s es := by
  have course : Course "a" _ _ := Machine.reaches_of_run
    [.turn "noon" 0, .receive (Utf8.encode "PI"), .turn "noon" 1,
      .receive (Utf8.encode "NG\nQUIT"), .turn "noon" 1, .turn "noon" 1, .turn "noon" 2, .finish,
      .turn "noon" 2, .turn "noon" 2, .turn "noon" 2, .turn "noon" 2, .turn "noon" 2,
      .turn "noon" 1] rfl
  refine ⟨_, _, course, ?sends, rfl, rfl, (session_answers course ?sends).2.1 rfl nofun⟩
  exact ⟨[], rfl, .inr rfl⟩

end LineService.Session
