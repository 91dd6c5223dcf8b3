import LineService.Proofs.Client.Delivery

/-!
# A dialogue that is played against a session

The program plays a dialogue against a session in the simplest order (`Dialogue.run` with `send`):
all that the client writes reaches the session at once, the session takes its turns until it waits
or is over, and all that it has sent reaches the client at once.  Every such run is a conversation
(`exists_conversation`), and it does not get stuck: no command is left waiting for its reply.
-/

set_option autoImplicit false

namespace LineService.Client.Conversation

variable {α : Type} {peer now : String} {others active : Nat} {d₀ d : Dialogue α}
  {c : Conversation α} {es : List Event}

/-! ## The session's turns -/

theorem sentSince_self (s : Session) : sentSince s s = [] := by
  simp [sentSince]

theorem sentSince_trans {s t u : Session} {first second : List String}
    (sent : t.sent = s.sent ++ first) (later : u.sent = t.sent ++ second) :
    sentSince s t ++ sentSince t u = sentSince s u := by
  have whole : u.sent = s.sent ++ (first ++ second) := by rw [later, sent, List.append_assoc]
  rw [sentSince_eq sent, sentSince_eq later, sentSince_eq whole, List.flatMap_append]

/-- Whether a session has a next turn hangs neither on the time nor on the number of clients. -/
theorem turn_none {s : Session} (stuck : s.turn now active = none) (now' : String)
    (active' : Nat) : s.turn now' active' = none := by
  cases phase : s.phase with
  | reading =>
      simp only [Session.turn, phase] at stuck ⊢
      split at stuck
      · rfl
      · cases stuck
  | «over» | discarded => simp [Session.turn, phase]
  | fresh | counted | answering _ | replying _ | closing | leaving | left =>
      simp [Session.turn, phase] at stuck

/-- The number of clients while this one is served besides `others`. -/
def Counts (others active : Nat) (s : Session) : Prop :=
  active = if s.isCounted then others + 1 else others

/-- A session counts its client in and out. -/
theorem counts_of_turn {s t : Session} {acts : List Session.Act}
    (taken : s.turn now active = some (t, acts)) (counts : Counts others active s) :
    Counts others (Session.countAfter active acts) t := by
  unfold Counts at counts ⊢
  cases phase : s.phase with
  | reading =>
      simp only [Session.turn, phase] at taken
      split at taken
      · cases taken
      · rename_i r i read
        cases r <;> cases taken <;>
          simpa [Session.afterReading, Session.countAfter, Session.isCounted, phase] using counts
  | replying r =>
      simp only [Session.turn, phase, Session.reply] at taken
      split at taken
      · cases taken
        simpa [Session.countAfter, Session.isCounted, phase] using counts
      · split at taken <;> cases taken <;>
          simpa [Session.countAfter, Session.isCounted, phase] using counts
  | leaving =>
      simp only [Session.turn, phase] at taken
      cases taken
      simp_all [Session.countAfter, Session.isCounted]
  | fresh | counted | answering _ | closing | left =>
      simp only [Session.turn, phase] at taken
      cases taken
      simpa [Session.countAfter, Session.isCounted, phase] using counts
  | «over» | discarded => simp [Session.turn, phase] at taken

theorem step_of_turn {s t : Session} {acts : List Session.Act}
    (taken : s.turn now active = some (t, acts)) :
    s.step (.turn now active) = some (t, s.asking now active ++ acts.map .act) := by
  simp [Session.step, taken]

/-- A conversation in which all questions are asked at one time, with `others` clients besides. -/
structure Played (peer now : String) (others : Nat) (d : Dialogue α) (c : Conversation α)
    (es : List Event) (active : Nat) : Prop where
  reached : Machine.Reaches step (start peer d) c es
  counts : Counts others active c.session
  asked : ∀ q ∈ Session.asked (course es), q.now = now ∧ q.active = others + 1

theorem Played.plain (played : Played peer now others d c es active)
    (clock : Line.Clean now ∧ Line.Fits now) (word : others + 1 < UInt64.size) :
    ∀ q ∈ Session.asked (course es), q.Plain := by
  intro q here
  obtain ⟨time, count⟩ := played.asked q here
  exact ⟨time ▸ clock.1, time ▸ clock.2, count ▸ word⟩

/-- A step that is none of the session's turns asks nothing. -/
theorem Played.silent {c' : Conversation α} {l : Label} {fs : List Event}
    (played : Played peer now others d c es active) (taken : c.step l = some (c', fs))
    (counted : c'.session.isCounted = c.session.isCounted)
    (nothing : Session.asked (course fs) = []) : Played peer now others d c' (es ++ fs) active := by
  refine ⟨played.reached.tail taken, ?_, ?_⟩
  · rw [Counts, counted]
    exact played.counts
  · simpa [nothing] using played.asked

/-- A session's turn asks at the time and with the number of clients that it is given. -/
theorem Played.turn {t : Session} {acts : List Session.Act}
    (played : Played peer now others d c es active)
    (taken : c.session.turn now active = some (t, acts)) :
    ∃ fs, Played peer now others d
      { c with session := t, incoming := c.incoming ++ sentSince c.session t } (es ++ fs)
      (Session.countAfter active acts) := by
  have stepped : c.step (.turn now active) =
      some ({ c with session := t, incoming := c.incoming ++ sentSince c.session t },
        (c.session.asking now active ++ acts.map Session.Event.act).map .session) := by
    simp [Conversation.step, step_of_turn taken]
  refine ⟨_, played.reached.tail stepped, counts_of_turn taken played.counts, fun q here => ?_⟩
  have acted : Session.asked (acts.map Session.Event.act) = [] := by
    simp [Session.asked, List.filterMap_map, Function.comp_def]
  rw [course_append, course_session, Session.asked_append, Session.asked_append, acted,
    List.append_nil] at here
  rcases List.mem_append.mp here with earlier | now_
  · exact played.asked q earlier
  · unfold Session.asking at now_
    split at now_
    · rename_i line phase
      obtain rfl : q = ⟨line, now, active⟩ := by simpa using now_
      have counts := played.counts
      simp only [Counts, Session.isCounted, phase, if_true] at counts
      exact ⟨rfl, counts⟩
    · cases now_

/-- What the session comes to when it takes its turns, and what it has sent then. -/
def settled (c : Conversation α) (now : String) (active fuel : Nat) : Conversation α :=
  { c with
    session := (c.session.settleFrom now fuel active).1
    incoming := c.incoming ++ sentSince c.session (c.session.settleFrom now fuel active).1 }

theorem sent_of_settleFrom (now : String) (fuel : Nat) (s : Session) (active : Nat) :
    ∃ news, (s.settleFrom now fuel active).1.sent = s.sent ++ news := by
  induction fuel generalizing s active with
  | zero => exact ⟨[], (List.append_nil _).symm⟩
  | succ fuel ih =>
      simp only [Session.settleFrom]
      split
      · exact ⟨[], (List.append_nil _).symm⟩
      · rename_i t acts taken
        obtain ⟨first, sent⟩ := sent_of_turn (step_of_turn taken)
        obtain ⟨second, later⟩ := ih t (Session.countAfter active acts)
        exact ⟨first ++ second, by rw [later, sent, List.append_assoc]⟩

theorem settled_of_turn {t : Session} {acts : List Session.Act} (fuel : Nat)
    (taken : c.session.turn now active = some (t, acts)) :
    settled { c with session := t, incoming := c.incoming ++ sentSince c.session t } now
      (Session.countAfter active acts) fuel = c.settled now active (fuel + 1) := by
  obtain ⟨first, sent⟩ := sent_of_turn (step_of_turn taken)
  obtain ⟨second, later⟩ := sent_of_settleFrom now fuel t (Session.countAfter active acts)
  simp only [settled, Session.settleFrom, taken, List.append_assoc, sentSince_trans sent later]

theorem settled_of_stuck (fuel : Nat) (stuck : c.session.turn now active = none) :
    c.settled now active fuel = c ∧
      (c.session.settleFrom now fuel active) = (c.session, active, []) := by
  have same : c.session.settleFrom now fuel active = (c.session, active, []) := by
    cases fuel <;> simp [Session.settleFrom, stuck]
  refine ⟨?_, same⟩
  rw [settled, same, sentSince_self, List.append_nil]

/-- **A session that takes its turns comes to a state in which it has no next one.** -/
theorem Played.settle (fuel : Nat) (played : Played peer now others d c es active)
    (enough : c.session.rank ≤ fuel) :
    ∃ fs, Played peer now others d (c.settled now active fuel) (es ++ fs)
        (c.session.settleFrom now fuel active).2.1 ∧
      ∀ now' active', (c.settled now active fuel).session.turn now' active' = none := by
  induction fuel generalizing c es active with
  | zero =>
      have stuck : c.session.turn now active = none := by
        cases taken : c.session.turn now active with
        | none => rfl
        | some r =>
            have less := Session.rank_lt (step_of_turn taken)
            omega
      obtain ⟨same, settles⟩ := settled_of_stuck 0 stuck
      rw [same, settles]
      exact ⟨[], by simpa using played, turn_none stuck⟩
  | succ fuel ih =>
      cases taken : c.session.turn now active with
      | none =>
          obtain ⟨same, settles⟩ := settled_of_stuck (fuel + 1) taken
          rw [same, settles]
          exact ⟨[], by simpa using played, turn_none taken⟩
      | some r =>
          obtain ⟨t, acts⟩ := r
          have less := Session.rank_lt (step_of_turn taken)
          obtain ⟨first, turned⟩ := played.turn taken
          obtain ⟨second, settled, still⟩ := ih turned
            (Nat.le_of_lt_succ (Nat.lt_of_lt_of_le less enough))
          rw [settled_of_turn fuel taken] at settled still
          refine ⟨first ++ second, ?_, still⟩
          simpa only [Session.settleFrom, taken, List.append_assoc] using settled

/-! ## One command -/

/-- All that the session has sent reaches the client. -/
theorem Played.bring (played : Played peer now others d c es active) :
    ∃ fs, Played peer now others d
      { c with inbox := c.inbox.receive c.incoming, incoming := [] } (es ++ fs) active := by
  by_cases empty : c.incoming = []
  · have same : c.inbox.receive [] = c.inbox := by
      obtain ⟨pending, outlook⟩ := c.inbox
      cases outlook <;> simp [Line.Inbox.receive]
    refine ⟨[], ?_⟩
    rw [empty, same, List.append_nil, ← empty]
    exact played
  · exact ⟨[], played.silent (l := .bring c.incoming.length) (by simp [step, empty]) rfl rfl⟩

/-- If the stream is closed, its end reaches the client behind that. -/
theorem Played.arrive (played : Played peer now others d c es active) :
    ∃ fs, Played peer now others d
      { c with
        inbox := Client.arrive c.inbox ⟨c.incoming, !c.session.isOpen⟩
        incoming := [] } (es ++ fs) active := by
  obtain ⟨fs, brought⟩ := played.bring
  cases opened : c.session.isOpen with
  | true => exact ⟨fs, by simpa [Client.arrive] using brought⟩
  | false =>
      by_cases expecting : (c.inbox.receive c.incoming).outlook = .expecting
      · refine ⟨fs ++ [], ?_⟩
        rw [← List.append_assoc]
        exact brought.silent (l := .close) (by simp [step, opened, expecting, Client.arrive])
          rfl rfl
      · have same : (c.inbox.receive c.incoming).finish = c.inbox.receive c.incoming := by
          cases outlook : (c.inbox.receive c.incoming).outlook with
          | expecting => exact absurd outlook expecting
          | ended | broken f => simp [Line.Inbox.finish, outlook]
        exact ⟨fs, by simpa [Client.arrive, same] using brought⟩

/-- Nothing is on its way in a conversation, and the client is about to go on with `d`. -/
structure Quiet (c : Conversation α) (d : Dialogue α) : Prop where
  ready : c.stand = .ready d
  carried : c.outgoing = []
  brought : c.incoming = []

/-- All that the client writes reaches the session. -/
theorem Played.speak {command : String} {go : Reply → Dialogue α}
    (played : Played peer now others d c es active) (quiet : c.Quiet (.ask command go)) :
    ∃ fs, Played peer now others d
      { c with
        stand := .waiting go
        session := c.session.receive (Line.write command) } (es ++ fs) active := by
  have spoken : Played peer now others d
      { c with stand := .waiting go, outgoing := Line.write command } (es ++ [.spoke command])
      active :=
    played.silent (l := .speak) (by simp [step, quiet.ready, quiet.carried]) rfl rfl
  have carried : Played peer now others d
      { c with stand := .waiting go, session := c.session.receive (Line.write command) }
      (es ++ [.spoke command] ++ (c.session.hearing (Line.write command)).map .session) active := by
    refine spoken.silent (l := .carry (Line.write command).length) ?_ rfl ?_
    · have nonempty : Line.write command ≠ [] := by simp [Line.write]
      simp [step, nonempty, Session.step, quiet.carried]
    · rw [course_session, Session.hearing]
      split <;> rfl
  exact ⟨_, List.append_assoc .. ▸ carried⟩

/-- A client to which nothing more can come reads, if anything is to happen at all. -/
theorem readable_of_next {go : Reply → Dialogue α} (waiting : c.stand = .waiting go)
    (carried : c.outgoing = []) (brought : c.incoming = [])
    (still : ∀ now active, c.session.turn now active = none)
    (closed : c.session.isOpen = false → c.inbox.outlook ≠ .expecting)
    (next : ∃ l, (step c l).isSome) : ∃ r i, c.inbox.read? = some (r, i) := by
  obtain ⟨l, next⟩ := next
  cases l with
  | speak => simp [step, waiting] at next
  | carry n => simp [step, carried] at next
  | turn now active => simp [step, Session.step, still now active] at next
  | bring n => simp [step, brought] at next
  | close =>
      simp only [step] at next
      split at next
      · rename_i ends
        exact absurd ends.2.2 (closed ends.1)
      · cases next
  | read =>
      simp only [step, waiting, Option.isSome_map] at next
      obtain ⟨⟨r, i⟩, read⟩ := Option.isSome_iff_exists.mp next
      exact ⟨r, i, read⟩

theorem arrive_outlook_of_closed (inbox : Line.Inbox) (bytes : List UInt8) :
    (Client.arrive inbox ⟨bytes, true⟩).outlook ≠ .expecting := by
  simp only [Client.arrive, if_true, Line.Inbox.finish]
  split
  · simp
  · assumption

/-- The session hears a command, takes its turns, and the client hears what it has sent. -/
theorem Played.hear {command : String} {go : Reply → Dialogue α}
    (played : Played peer now others d c es active) (quiet : c.Quiet (.ask command go))
    {server : Server} {arrival : Arrival}
    (hears : Server.hear now ⟨c.session, active⟩ (Line.write command) = (server, arrival)) :
    ∃ fs, Played peer now others d
        ⟨.waiting go, Client.arrive c.inbox arrival, [], [], server.session⟩ (es ++ fs)
        server.active ∧
      arrival.closed = !server.session.isOpen ∧
      ∀ now' active', server.session.turn now' active' = none := by
  obtain ⟨first, spoken⟩ := played.speak quiet
  obtain ⟨second, settled, still⟩ := spoken.settle _ (Session.rank_le_turnBound _)
  obtain ⟨third, arrived⟩ := settled.arrive
  obtain ⟨stand, inbox, outgoing, incoming, session⟩ := c
  obtain ⟨rfl, rfl, rfl⟩ := quiet
  cases hears
  refine ⟨first ++ (second ++ third), ?_, rfl, still⟩
  rw [← List.append_assoc, ← List.append_assoc]
  exact arrived

/-- **A command that is sent gets its reply**, and playing goes on as the conversation does. -/
theorem Played.send {command : String} {go : Reply → Dialogue α}
    (played : Played peer now others d c es active) (quiet : c.Quiet (.ask command go))
    (clock : Line.Clean now ∧ Line.Fits now) (word : others + 1 < UInt64.size) :
    ∃ (server : Server) (inbox : Line.Inbox) (r : Reply) (fs : List Event),
      Client.send (Server.hear now) ⟨⟨c.session, active⟩, c.inbox⟩ command =
        some (⟨server, inbox⟩, r) ∧
      Played peer now others d ⟨.ready (go r), inbox, [], [], server.session⟩ (es ++ fs)
        server.active := by
  obtain ⟨⟨server, arrival⟩, hears⟩ :
    ∃ r, Server.hear now ⟨c.session, active⟩ (Line.write command) = r := ⟨_, rfl⟩
  obtain ⟨first, heard, closed, still⟩ := played.hear quiet hears
  obtain ⟨texts, rest, ends, delivered⟩ :=
    delivered_of_reaches heard.reached (heard.plain clock word)
  -- the client waits, and nothing but its reading is left to happen
  obtain ⟨r, i, read⟩ := readable_of_next rfl rfl rfl still
    (fun shut => by
      obtain ⟨bytes, end_⟩ := arrival
      obtain rfl : end_ = true := closed.trans (by simpa using shut)
      exact arrive_outlook_of_closed _ bytes)
    (delivered.exists_step (course_of_reaches heard.reached) nofun)
  have went : Played peer now others d ⟨.ready (go (.ofReading r)), i, [], [], server.session⟩
      (es ++ first ++ [.heard (.ofReading r)]) server.active :=
    heard.silent (l := .read) (by simp only [step, read, Option.map_some]) rfl rfl
  refine ⟨server, i, .ofReading r, first ++ [.heard (.ofReading r)], ?_, ?_⟩
  · simp only [Client.send, hears, read, Option.map_some]
  · rw [← List.append_assoc]
    exact went

/-! ## The whole dialogue -/

/-- **Playing a dialogue against a session is a conversation that comes to its end.** -/
theorem exists_conversation (peer : String) (d : Dialogue α)
    (clock : Line.Clean now ∧ Line.Fits now) (word : others + 1 < UInt64.size) :
    ∃ k a c es, d.run (Client.send (Server.hear now)) (.ofFar (Server.meet peer others)) =
        some (k, a) ∧
      Machine.Reaches step (start peer d) c es ∧ c.stand = .ready (.done a) ∧
      ∀ q ∈ Session.asked (course es), q.now = now ∧ q.active = others + 1 := by
  suffices ∀ {d' : Dialogue α} {c : Conversation α} {es active},
      Played peer now others d c es active → c.Quiet d' →
      ∃ k a c' es', d'.run (Client.send (Server.hear now)) ⟨⟨c.session, active⟩, c.inbox⟩ =
          some (k, a) ∧
        Machine.Reaches step (start peer d) c' es' ∧ c'.stand = .ready (.done a) ∧
        ∀ q ∈ Session.asked (course es'), q.now = now ∧ q.active = others + 1 by
    have first : Played peer now others d (start peer d) [] others := ⟨.refl, rfl, nofun⟩
    exact this first ⟨rfl, rfl, rfl⟩
  intro d'
  induction d' with
  | done a =>
      intro c es active played quiet
      exact ⟨_, a, c, es, rfl, played.reached, quiet.ready, played.asked⟩
  | ask command go ih =>
      intro c es active played quiet
      obtain ⟨server, inbox, r, fs, sends, went⟩ := played.send quiet clock word
      obtain ⟨k, a, c', es', runs, rest⟩ := ih r went ⟨rfl, rfl, rfl⟩
      refine ⟨k, a, c', es', ?_, rest⟩
      simp only [Dialogue.run, sends]
      exact runs

end LineService.Client.Conversation
