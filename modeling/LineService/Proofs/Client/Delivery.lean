import LineService.Proofs.Client.Conversation
import LineService.Proofs.Session.Agenda
import LineService.Proofs.Session.Readable

/-!
# What reaches the client

The commands of a client are texts, so what it writes has no flaws, and whatever the session sends
back can be read (`Course.sent_fits`).  With this, the two streams are kept apart into texts
(`Delivered`): the session has sent the texts that the client has heard and those that are still
ahead, and what has not been read of the stream back are the lines of the latter.

So the client hears the replies one after the other, and then, if it goes on reading, the end of
the stream, but never any trouble.  `Delivered.reply` says which reply it is: that to the line in
the same place of what the client has written.  And a client that waits does not wait for ever
(`Delivered.exists_step`).
-/

set_option autoImplicit false

namespace LineService.Client.Conversation

variable {α : Type} {peer : String} {d : Dialogue α} {c c' : Conversation α} {l : Label}
  {es fs : List Event} {texts rest : List String} {ends : Nat}

/-- The bytes of commands. -/
def wire (commands : List String) : List UInt8 := commands.flatMap Line.write

@[simp] theorem wire_append (commands more : List String) :
    wire (commands ++ more) = wire commands ++ wire more := List.flatMap_append

@[simp] theorem wire_singleton (command : String) : wire [command] = Line.write command :=
  List.flatMap_singleton ..

/-- Commands are whole lines. -/
theorem whole_wire (commands : List String) : Line.Whole (wire commands) := by
  induction commands with
  | nil => exact Line.whole_nil
  | cons command more ih => exact Line.whole_write_append command ih

/-- Commands have no flaws. -/
theorem flaws_wire (commands : List String) : Utf8.flaws (wire commands) = 0 := by
  induction commands with
  | nil => rfl
  | cons command more ih =>
      rw [wire, List.flatMap_cons, Line.write, List.append_assoc, Utf8.flaws_encode_append]
      have feed := Utf8.flaws_append_ascii [] (wire more)
        (show Line.terminator.toNat < 0x80 by decide)
      rw [ih] at feed
      exact feed

/-- Each command is a line at least. -/
theorem length_le_all_wire (commands : List String) :
    commands.length ≤ (Line.all (wire commands)).length := by
  induction commands with
  | nil => exact Nat.zero_le _
  | cons command more ih =>
      have nonempty : Line.write command ≠ [] := by simp [Line.write]
      have whole : Line.Whole (Line.write command) := by
        simpa using Line.whole_write_append command Line.whole_nil
      rw [wire, List.flatMap_cons, whole.all_append, List.length_append, List.length_cons,
        Line.all_of_ne_nil nonempty, List.length_cons]
      change more.length ≤ (Line.all (more.flatMap Line.write)).length at ih
      omega

/-! ## What a session's turn sends -/

theorem sent_of_turn {s t : Session} {now : String} {active : Nat} {es : List Session.Event}
    (taken : s.step (.turn now active) = some (t, es)) : ∃ news, t.sent = s.sent ++ news := by
  generalize turning : Session.Label.turn now active = l at taken
  cases Session.turn_of_step taken with
  | received | discarded => cases turning
  | aside _ outside => exact absurd turning.symm (outside now active)
  | answered | answeredLast => exact ⟨_, rfl⟩
  | _ => exact ⟨[], (List.append_nil _).symm⟩

/-- A session that has closed its stream sends nothing more. -/
theorem closed_of_turn {s t : Session} {now : String} {active : Nat} {es : List Session.Event}
    (taken : s.step (.turn now active) = some (t, es)) (closed : s.isOpen = false) :
    t.isOpen = false ∧ t.sent = s.sent := by
  generalize turning : Session.Label.turn now active = l at taken
  cases Session.turn_of_step taken with
  | received | discarded => cases turning
  | aside _ outside => exact absurd turning.symm (outside now active)
  | wentOut | ended => exact ⟨rfl, rfl⟩
  | entered _ _ phase | greeted _ _ phase | read _ _ phase | heardOut _ _ phase
  | troubled _ _ phase | asked _ _ phase | answered _ _ phase | answeredLast _ _ phase
  | unsent _ _ phase | closed _ _ phase => simp [Session.isOpen, phase] at closed

theorem sentSince_eq {s t : Session} {news : List String} (sent : t.sent = s.sent ++ news) :
    sentSince s t = news.flatMap Line.write := by
  rw [sentSince, sent, List.drop_left]

/-! ## What holds all along a conversation -/

/-- What the client has heard, and what is ahead of it: `texts` and then `ends` times the end of the
stream have been heard, and the session has sent `rest` besides. -/
structure Delivered (c : Conversation α) (es : List Event) (texts rest : List String) (ends : Nat) :
    Prop where
  expecting : c.session.inbox.outlook = .expecting
  able : c.session.mute = none
  served : c.session.phase ≠ .discarded
  written : wire (spoken es) = Session.arrived (course es) ++ c.outgoing
  sent : c.session.sent = texts ++ rest
  ahead : rest.flatMap Line.write = c.inbox.pending ++ c.incoming
  heard : replies es = texts.map .line ++ List.replicate ends .closed
  outlook : c.inbox.outlook = .expecting ∧ ends = 0 ∨
    c.inbox.outlook = .ended ∧ c.session.isOpen = false ∧ c.incoming = []
  /-- Behind the end of the stream nothing is ahead. -/
  last : 0 < ends → rest = []
  due : (spoken es).length = (replies es).length + c.stand.due

/-- What the client writes and the session hears. -/
theorem Delivered.sends (delivered : Delivered c es texts rest ends) :
    Session.Sends (wire (spoken es)) c.session (course es) :=
  ⟨c.outgoing, delivered.written, .inl delivered.expecting⟩

/-- The stream back does not break. -/
theorem Delivered.sound (delivered : Delivered c es texts rest ends) (f : Net.Fault) :
    c.inbox.outlook ≠ .broken f := by
  rcases delivered.outlook with ⟨expecting, -⟩ | ⟨ended, -, -⟩
  · simp [expecting]
  · simp [ended]

/-- What a client reads next: the next text that is ahead of it, or the end of the stream. -/
theorem Delivered.read (delivered : Delivered c es texts rest ends)
    (legible : ∀ t ∈ rest, Line.Clean t ∧ Line.Fits t) {r : Line.Reading} {i : Line.Inbox}
    (taken : c.inbox.read? = some (r, i)) :
    (∃ t later, rest = t :: later ∧ r = .line t (Line.write t).length ∧
        later.flatMap Line.write = i.pending ++ c.incoming) ∨
      rest = [] ∧ r = .finished ∧ i.pending = [] ∧ c.inbox.outlook = .ended := by
  have ahead := delivered.ahead
  have read := Line.Inbox.read_of_read? taken
  cases rest with
  | nil =>
      obtain ⟨pending, -⟩ := List.append_eq_nil_iff.mp ahead.symm
      cases read with
      | settled here => exact absurd pending (Line.ne_nil_of_settled here)
      | last _ ended => exact .inr ⟨rfl, by rw [pending]; rfl, by rw [pending]; rfl, ended⟩
      | lost f broken => exact absurd broken (delivered.sound f)
  | cons t later =>
      obtain ⟨clean, fits⟩ := legible t List.mem_cons_self
      rw [List.flatMap_cons] at ahead
      have first := Line.next_write_append clean.free fits (later.flatMap Line.write)
      rw [ahead, clean.trim_eq] at first
      cases read with
      | settled here =>
          rw [Line.next_append_of_settled c.incoming here] at first
          obtain ⟨line, behind⟩ := Prod.mk.inj first
          exact .inl ⟨t, later, rfl, line, behind.symm⟩
      | last _ ended =>
          have drained : c.incoming = [] := by
            rcases delivered.outlook with ⟨expecting, -⟩ | ⟨-, -, drained⟩
            · cases ended.symm.trans expecting
            · exact drained
          rw [drained, List.append_nil] at first ⊢
          exact .inl ⟨t, later, rfl, congrArg Prod.fst first, (congrArg Prod.snd first).symm⟩
      | lost f broken => exact absurd broken (delivered.sound f)

/-- A turn of the session puts what it sends behind what is ahead of the client, and nothing once
it has closed its stream. -/
theorem Delivered.after_turn (delivered : Delivered c es texts rest ends) {now : String}
    {active : Nat} {s : Session} {gs : List Session.Event}
    (taken : c.session.step (.turn now active) = some (s, gs)) :
    ∃ news, Delivered { c with session := s, incoming := c.incoming ++ sentSince c.session s }
      (es ++ gs.map .session) texts (rest ++ news) ends := by
  obtain ⟨news, more⟩ := sent_of_turn taken
  have silent (closed : c.session.isOpen = false) : news = [] := by
    have same := (closed_of_turn taken closed).2
    rw [more] at same
    exact List.append_right_eq_self.mp same
  refine ⟨news, ?expecting, ?able, Session.served_of_turn taken, ?written, ?sent, ?ahead, ?heard,
    ?outlook, ?last, ?due⟩
  case expecting => exact (Session.outlook_of_turn taken).trans delivered.expecting
  case able => exact (Session.mute_eq_of_turn taken).trans delivered.able
  case written => simp [delivered.written, Session.arrived_of_turn taken]
  case sent => rw [more, delivered.sent, List.append_assoc]
  case ahead => rw [List.flatMap_append, delivered.ahead, sentSince_eq more, List.append_assoc]
  case heard => simpa using delivered.heard
  case outlook =>
    rcases delivered.outlook with open_ | ⟨ended, closed, drained⟩
    · exact .inl open_
    · refine .inr ⟨ended, (closed_of_turn taken closed).1, ?_⟩
      rw [drained, sentSince_eq more, silent closed]
      rfl
  case last =>
    intro positive
    rcases delivered.outlook with ⟨-, zero⟩ | ⟨-, closed, -⟩
    · omega
    · rw [delivered.last positive, silent closed]
      rfl
  case due => simpa using delivered.due

/-- What the client reads is what was ahead of it: the next text, or the end of the stream. -/
theorem Delivered.after_reading (delivered : Delivered c es texts rest ends)
    (legible : ∀ t ∈ rest, Line.Clean t ∧ Line.Fits t) {go : Reply → Dialogue α} {r : Line.Reading}
    {i : Line.Inbox} (waiting : c.stand = .waiting go) (taken : c.inbox.read? = some (r, i)) :
    ∃ texts' rest' ends', Delivered { c with stand := .ready (go (.ofReading r)), inbox := i }
      (es ++ [.heard (.ofReading r)]) texts' rest' ends' := by
  have same : i.outlook = c.inbox.outlook := (Line.Inbox.read_of_read? taken).outlook_eq
  have read := delivered.read legible taken
  obtain ⟨expecting, able, served, written, sent, -, heard, outlook, last, due⟩ := delivered
  rcases read with ⟨t, later, rfl, rfl, behind⟩ | ⟨rfl, rfl, drained, ended⟩
  · obtain rfl : ends = 0 := Nat.eq_zero_of_not_pos fun positive => by simpa using last positive
    refine ⟨texts ++ [t], later, 0, expecting, able, served, ?_, ?_, behind, ?_, ?_,
      fun positive => absurd positive (Nat.lt_irrefl 0), ?_⟩
    · simpa using written
    · simpa using sent
    · simp [heard, Reply.ofReading]
    · rwa [same]
    · simpa [Stand.due, waiting] using due
  · obtain ⟨closed, gone⟩ : c.session.isOpen = false ∧ c.incoming = [] := by
      rcases outlook with ⟨expecting, -⟩ | ⟨-, rest⟩
      · cases ended.symm.trans expecting
      · exact rest
    refine ⟨texts, [], ends + 1, expecting, able, served, ?_, sent, ?_, ?_,
      .inr ⟨same.trans ended, closed, gone⟩, fun _ => rfl, ?_⟩
    · simpa using written
    · simp [drained, gone]
    · simp [heard, Reply.ofReading, List.replicate_succ']
    · simpa [Stand.due, waiting] using due

/-- One turn keeps what has been heard and what is ahead together. -/
theorem delivered_of_turn (delivered : Delivered c es texts rest ends)
    (legible : ∀ t ∈ rest, Line.Clean t ∧ Line.Fits t) (turn : Turn c l c' fs) :
    ∃ texts' rest' ends', Delivered c' (es ++ fs) texts' rest' ends' := by
  cases turn with
  | served _ _ taken =>
      obtain ⟨news, after⟩ := delivered.after_turn taken
      exact ⟨texts, rest ++ news, ends, after⟩
  | read waiting taken => exact delivered.after_reading legible waiting taken
  | @spoke command go ready =>
      obtain ⟨expecting, able, served, written, sent, ahead, heard, outlook, last, due⟩ := delivered
      refine ⟨texts, rest, ends, expecting, able, served, ?_, sent, ahead, ?_, outlook, last, ?_⟩
      · simp [written]
      · simpa using heard
      · simpa [Stand.due, ready] using due
  | @carried n s fs any taken =>
      obtain ⟨expecting, able, served, written, sent, ahead, heard, outlook, last, due⟩ := delivered
      obtain ⟨rfl, rfl⟩ := Prod.mk.inj (Option.some.inj taken)
      refine ⟨texts, rest, ends, ?_, able, served, ?_, sent, ahead, ?_, outlook, last, ?_⟩
      · exact (receive_outlook _ _).trans expecting
      · simp [written, Session.hearing, expecting]
      · simpa using heard
      · simpa using due
  | brought n any =>
      obtain ⟨expecting, able, served, written, sent, ahead, heard, outlook, last, due⟩ := delivered
      obtain ⟨open_, zero⟩ : c.inbox.outlook = .expecting ∧ ends = 0 := by
        rcases outlook with open_ | ⟨-, -, drained⟩
        · exact open_
        · simp [drained] at any
      refine ⟨texts, rest, ends, expecting, able, served, ?_, sent, ?_, ?_, .inl ⟨?_, zero⟩, last,
        ?_⟩
      · simpa using written
      · simp [ahead, Line.Inbox.receive, open_]
      · simpa using heard
      · exact (receive_outlook _ _).trans open_
      · simpa using due
  | closed closed drained =>
      obtain ⟨expecting, able, served, written, sent, ahead, heard, -, last, due⟩ := delivered
      refine ⟨texts, rest, ends, expecting, able, served, ?_, sent, ahead, ?_,
        .inr ⟨rfl, closed, drained⟩, last, ?_⟩
      · simpa using written
      · simpa using heard
      · simpa using due

/-- All that is ahead of the client can be read. -/
theorem Delivered.legible (delivered : Delivered c es texts rest ends)
    (course : Session.Course peer c.session (course es))
    (plain : ∀ q ∈ Session.asked (Conversation.course es), q.Plain) :
    ∀ t ∈ rest, Line.Clean t ∧ Line.Fits t := by
  intro t later
  have sent : t ∈ c.session.sent := delivered.sent ▸ List.mem_append_right texts later
  have few : Utf8.flaws (wire (spoken es)) ≤ 2 := by simp [flaws_wire]
  exact ⟨course.sent_clean delivered.sends plain sent,
    course.sent_fits delivered.sends plain few sent⟩

/-- **All that a session sends reaches its client as it was sent**, and after it the end of the
stream. -/
theorem delivered_of_reaches (reached : Machine.Reaches step (start peer d) c es)
    (plain : ∀ q ∈ Session.asked (course es), q.Plain) :
    ∃ texts rest ends, Delivered c es texts rest ends := by
  induction reached with
  | refl =>
      exact ⟨[], [], 0, rfl, rfl, by simp [start, Session.new], rfl, rfl, rfl, rfl, .inl ⟨rfl, rfl⟩,
        nofun, rfl⟩
  | @tail c c' es fs l before taken ih =>
      have earlier : ∀ q ∈ Session.asked (course es), q.Plain := fun q here =>
        plain q (by simp [here])
      obtain ⟨texts, rest, ends, delivered⟩ := ih earlier
      have legible := delivered.legible (course_of_reaches before) earlier
      exact delivered_of_turn delivered legible (turn_of_step taken)

/-! ## What the replies are -/

/-- **The reply in a place is the answer to the line in that place of what the client had written
by then**, if that line is answered, and otherwise the end of the stream. -/
theorem Delivered.reply (delivered : Delivered c es texts rest ends)
    (course : Session.Course peer c.session (course es)) {i : Nat}
    (less : i < (replies es).length) :
    (∃ q, (Session.agenda (Line.all (wire ((spoken es).take (i + 1)))))[i]? = some q.line ∧
      (Session.asked (Conversation.course es))[i]? = some q ∧
      (replies es)[i]? = some (.line q.answer)) ∨
    (Session.agenda (Line.all (wire ((spoken es).take (i + 1)))))[i]? = none ∧
      (replies es)[i]? = some .closed := by
  -- the commands up to this one have so many lines already
  have early : (Session.agenda (Line.all (wire ((spoken es).take (i + 1)))))[i]? =
      (Session.agenda (Line.all (wire (spoken es))))[i]? := by
    have due := delivered.due
    have enough := length_le_all_wire ((spoken es).take (i + 1))
    rw [List.length_take] at enough
    rw [← List.take_append_drop (i + 1) (spoken es), wire_append, (whole_wire _).all_append,
      List.take_append_drop]
    exact (Session.getElem?_agenda_append (by omega)).symm
  rw [early, delivered.heard]
  by_cases told : i < texts.length
  · left
    have sent : c.session.sent[i]? = some texts[i] := by
      rw [delivered.sent, List.getElem?_append_left told, List.getElem?_eq_getElem told]
    obtain ⟨q, asked, line, answer⟩ := course.sent_question delivered.sends sent
    refine ⟨q, line, asked, ?_⟩
    rw [List.getElem?_append_left (by simpa using told), List.getElem?_map,
      List.getElem?_eq_getElem told, ← answer]
    rfl
  · right
    have later : i - texts.length < ends := by
      rw [delivered.heard, List.length_append, List.length_map, List.length_replicate] at less
      omega
    have positive : 0 < ends := Nat.zero_lt_of_lt later
    have closed : c.session.isOpen = false := by
      rcases delivered.outlook with ⟨-, zero⟩ | ⟨-, closed, -⟩
      · omega
      · exact closed
    have answered := course.length_agenda_of_ending delivered.able delivered.expecting
      (Session.ending_of_closed closed delivered.served) c.outgoing
    rw [← delivered.written, delivered.sent, delivered.last positive, List.append_nil] at answered
    constructor
    · exact List.getElem?_eq_none (by omega)
    · rw [List.getElem?_append_right (by simpa using told), List.length_map,
        List.getElem?_replicate_of_lt later]

/-! ## Nobody waits for ever -/

/-- A client that has to wait has read all that was sent to it. -/
theorem Delivered.rest_eq_nil (delivered : Delivered c es texts rest ends)
    (waits : c.inbox.read? = none) (drained : c.incoming = []) : rest = [] := by
  have ahead := delivered.ahead
  rw [drained, List.append_nil] at ahead
  cases rest with
  | nil => rfl
  | cons t later =>
      have whole : Line.Whole c.inbox.pending := ahead ▸ whole_wire (t :: later)
      have settled := whole.settled (by simp [← ahead, Line.write])
      simp [Line.Inbox.read?, settled] at waits

/-- **What a client waits for arrives**: as long as its dialogue has not come to its end, there is
a next step. -/
theorem Delivered.exists_step (delivered : Delivered c es texts rest ends)
    (course : Session.Course peer c.session (course es))
    (unfinished : ∀ a, c.stand ≠ .ready (.done a)) : ∃ l, (step c l).isSome := by
  cases stand : c.stand with
  | ready d =>
      cases d with
      | done a => exact absurd stand (unfinished a)
      | ask command go => exact ⟨.speak, by simp [step, stand]⟩
  | waiting go =>
      by_cases readable : c.inbox.read?.isSome
      · exact ⟨.read, by simpa [step, stand] using readable⟩
      have waits : c.inbox.read? = none := by simpa using readable
      have expecting : c.inbox.outlook = .expecting := by
        refine Decidable.byContradiction fun closed => ?_
        obtain ⟨r, i, read⟩ := Line.Inbox.read?_isSome closed
        simp [waits] at read
      by_cases sent : c.incoming ≠ []
      · exact ⟨.bring c.incoming.length, by simp [step, sent]⟩
      have drained : c.incoming = [] := by simpa using sent
      by_cases written : c.outgoing ≠ []
      · exact ⟨.carry c.outgoing.length, by simp [step, written, Session.step]⟩
      have carried : c.outgoing = [] := by simpa using written
      cases opened : c.session.isOpen with
      | false => exact ⟨.close, by simp [step, opened, drained, expecting]⟩
      | true =>
          cases taken : c.session.step (.turn "" 0) with
          | some r => exact ⟨.turn "" 0, by simp [step, taken]⟩
          | none =>
              -- then the session waits too, and has answered all that the client has written
              obtain ⟨reading, silent⟩ := Session.waits_of_stuck opened taken
              have written := delivered.written
              rw [carried, List.append_nil] at written
              have answered := course.waiting_length delivered.able delivered.expecting reading
                silent (written ▸ whole_wire _)
              have enough := length_le_all_wire (spoken es)
              have due := delivered.due
              have told : ends = 0 := by
                rcases delivered.outlook with ⟨-, zero⟩ | ⟨ended, -⟩
                · exact zero
                · cases expecting.symm.trans ended
              rw [← written, delivered.sent, delivered.rest_eq_nil waits drained,
                List.append_nil] at answered
              rw [delivered.heard, told, stand, Stand.due, List.length_append, List.length_map,
                List.length_replicate] at due
              omega

end LineService.Client.Conversation
