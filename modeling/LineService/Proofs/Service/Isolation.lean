import LineService.Proofs.Service.Fates
import LineService.Proofs.Session.Likeness

/-!
# Clients do not hear of each other

Each session of a service has a course of its own, and what a course sends depends on the bytes of
its own client, but for the time and the number of clients.  So a client is told the same in every
service, whoever else there is and whatever they do, and is told what it would be told alone.

That there is a service in which it is alone, and is served to its end, is `exists_alone`: the one
client connects, sends, is handed to a worker, and the worker serves the session as long as there
is a turn (`served_to_end`).
-/

set_option autoImplicit false

namespace LineService.Service

variable {s : Service} {n : Nat} {es : List Entry} {i k : Nat} {x y : Session}
  {bytes : List UInt8}

/-! ## Serving a session to its end -/

/-- A worker takes the next turn of the session that it is serving. -/
theorem recorded_serve {now : String} {fs : List Session.Event}
    (busy : s.crew.workers[k]? = some (.busy i)) (here : s.sessions[i]? = some x)
    (taken : x.step (.turn now s.tally.value) = some (y, fs)) :
    ∃ t gs, recorded s (.serve k now) = some (t, gs) ∧ t.crew = s.crew ∧
      t.sessions = s.sessions.set i y ∧ courseOf i gs = fs := by
  have served : s.servedBy k = some i := by rw [servedBy, busy]
  have note : s.notes (.serve k now) = ofNotes i fs := by
    simp [notes, touches, served, here, taken, ofNotes]
  simp only [Session.step, Option.map_eq_some_iff, Prod.mk.injEq] at taken
  obtain ⟨⟨y, acts⟩, turned, rfl, -⟩ := taken
  have stepped : s.step (.serve k now) = some
      ({ s with sessions := s.sessions.set i y, tally := acts.foldl count s.tally },
        acts.map (.session i)) := by
    simp only [step, serve, served, here, turned, Option.bind_eq_bind, Option.bind_some]
  have record : recorded s (.serve k now) = some
      ({ s with sessions := s.sessions.set i y, tally := acts.foldl count s.tally },
        ofActs i acts ++ ofNotes i fs) := by
    simp only [recorded, stepped, note, Option.map_some, List.map_map, ofActs]
  exact ⟨_, _, record, rfl, rfl, by simp⟩

/-- **A worker can serve a session to its end**, once the client has finished, at whatever time. -/
theorem served_to_end (busy : s.crew.workers[k]? = some (.busy i))
    (here : s.sessions[i]? = some x) (closed : x.inbox.outlook ≠ .expecting)
    (served : x.phase ≠ .discarded) (now : String) :
    ∃ t gs y, Machine.Reaches recorded s t gs ∧ t.sessions = s.sessions.set i y ∧
      y.peer = x.peer ∧ y.phase = .over ∧ y.mute = x.mute ∧
      Session.arrived (courseOf i gs) = [] := by
  induction bound : x.rank using Nat.strongRecOn generalizing s x with
  | ind bound ih =>
      subst bound
      have less := (List.getElem?_eq_some_iff.mp here).1
      by_cases past : x.phase = .over
      · refine ⟨s, [], x, .refl, ?_, rfl, past, rfl, rfl⟩
        rw [← (List.getElem?_eq_some_iff.mp here).2, List.set_getElem_self less]
      · obtain ⟨z, fs, taken⟩ := Session.turn_isSome closed past served now s.tally.value
        obtain ⟨u, gs, stepped, crew, sessions, course⟩ := recorded_serve busy here taken
        have peer := Session.peer_of_turn (Session.turn_of_step taken)
        obtain ⟨t, hs, y, reached, rest, same, ended, mute, nothing⟩ :=
          ih z.rank (Session.rank_lt taken) (crew ▸ busy)
            (by rw [sessions, List.getElem?_set_self less])
            (Session.outlook_of_turn taken ▸ closed) (Session.served_of_turn taken) rfl
        refine ⟨t, gs ++ hs, y, (Machine.Reaches.single stepped).trans reached, ?_,
          same.trans peer, ended, mute.trans (Session.mute_eq_of_turn taken), ?_⟩
        · rw [rest, sessions, List.set_set]
        · rw [courseOf_append, course, Session.arrived_append, Session.arrived_of_turn taken,
            nothing]
          rfl

/-! ## Alone in a service -/

/-- The one client of a service connects, sends and finishes, and a worker takes it over. -/
theorem exists_busy_alone (positive : 0 < n) (room : n < Tally.bound) (peer : String)
    (bytes : List UInt8) :
    ∃ s es x, History n s es ∧ s.crew.workers[0]? = .some (.busy 0) ∧ s.sessions = [x] ∧
      x.peer = peer ∧ x.phase = .fresh ∧ x.inbox.outlook = .ended ∧ x.mute = none ∧
      Session.arrived (courseOf 0 es) = bytes := by
  obtain ⟨m, rfl⟩ := Nat.exists_eq_add_of_lt positive
  have history : History (0 + m + 1) _ _ := ⟨_, _, 1, Opening.founded positive room,
    Machine.reaches_of_run
      [.connect peer, .receive 0 bytes, .finish 0, .look, .look, .accept, .look, .hand 0, .ask 0]
      rfl⟩
  exact ⟨_, _, _, history, rfl, rfl, rfl, rfl, rfl, rfl, List.append_nil bytes⟩

/-- **A client can have a service to itself**, and be served to its end. -/
theorem exists_alone (positive : 0 < n) (room : n < Tally.bound) (peer : String)
    (bytes : List UInt8) :
    ∃ s es x, History n s es ∧ s.sessions = [x] ∧ x.peer = peer ∧
      Session.Sends bytes x (courseOf 0 es) ∧ x.Complete := by
  obtain ⟨s, es, x, history, busy, sessions, rfl, fresh, ended, able, heard⟩ :=
    exists_busy_alone positive room peer bytes
  obtain ⟨t, gs, y, reached, served, peer, past, mute, nothing⟩ :=
    served_to_end (x := x) busy (by rw [sessions]; rfl) (by simp [ended]) (by simp [fresh]) "noon"
  rw [sessions] at served
  refine ⟨t, es ++ gs, y, history.trans reached, served, peer, ⟨[], ?_, .inr rfl⟩, past,
    mute.trans able⟩
  rw [courseOf_append, Session.arrived_append, heard, nothing, List.append_nil, List.append_nil]

/-- A service has workers. -/
theorem History.workers (history : History n s es) : 0 < n := by
  obtain ⟨_, _, _, opening, -⟩ := history
  obtain ⟨_, first, -⟩ := opening.history
  exact (Crew.new_eq_ok first).1

/-- **Clients do not hear of each other.**  Let a client send `bytes` in all to a service with `n`
workers, whatever other clients, workers and those who stop the service do in whatever order.

* In every service, with any number of workers and any other clients, one who sends the same bytes
  is told the same but for the time and the number of clients, as `Likeness` says.
* So the client is told what it would be told alone: there is a service with `n` workers and no
  other client in which one who sends the same bytes is served to its end.
* A client that is served to its end has a session that is over; one that is released from the
  queue, refused or turned away is sent nothing. -/
theorem no_cross_talk (history : History n s es) (here : s.sessions[i]? = some x)
    (sends : Session.Sends bytes x (courseOf i es)) :
    (∀ {m : Nat} {t : Service} {fs : List Entry} {j : Nat} {y : Session}, History m t fs →
      t.sessions[j]? = some y → Session.Sends bytes y (courseOf j fs) →
        Session.Likeness bytes x y) ∧
    (∃ t fs y, History n t fs ∧ t.sessions = [y] ∧ y.peer = x.peer ∧
      Session.Sends bytes y (courseOf 0 fs) ∧ y.Complete ∧ Session.Likeness bytes x y) ∧
    (i ∈ Crew.carriedOut (crewEvents es) → x.phase = .over) ∧
    (i ∈ unserved es → x.output = []) := by
  have likeness {m : Nat} {t : Service} {fs : List Entry} {j : Nat} {y : Session}
      (other : History m t fs) (there : t.sessions[j]? = some y)
      (same : Session.Sends bytes y (courseOf j fs)) : Session.Likeness bytes x y :=
    (history.course here).likeness sends (other.course there) same
  refine ⟨likeness, ?_, (history.lodged here).late, fun unserved => ?_⟩
  · obtain ⟨t, fs, y, alone, sessions, peer, same, complete⟩ :=
      exists_alone history.workers history.room x.peer bytes
    have there : t.sessions[0]? = some y := by rw [sessions]; rfl
    exact ⟨t, fs, y, alone, sessions, peer, same, complete, likeness alone there same⟩
  · exact (history.silent_of_unserved here unserved).2.1

/-- Next to another client, and alone with only one worker: the number of clients differs, and
nothing else. -/
theorem no_cross_talk_two_services :
    ∃ s es x t fs y, History 2 s es ∧ s.sessions[0]? = some x ∧
      Session.Sends (Utf8.encode "STATS\nQUIT") x (courseOf 0 es) ∧
      History 1 t fs ∧ t.sessions[0]? = some y ∧
      Session.Sends (Utf8.encode "STATS\nQUIT") y (courseOf 0 fs) ∧
      x.sent = ["Active clients: 2", "Goodbye"] ∧ y.sent = ["Active clients: 1", "Goodbye"] ∧
      Session.Likeness (Utf8.encode "STATS\nQUIT") x y := by
  have crowded : History 2 _ _ := ⟨_, _, 1, Opening.founded (by decide) (by decide),
    Machine.reaches_of_run
      [.connect "b", .connect "a", .look, .look, .accept, .look, .hand 0, .look, .accept, .look,
        .hand 0, .ask 1, .ask 0, .serve 0 "noon", .serve 1 "noon", .receive 0 (Line.write "STATS"),
        .serve 1 "noon", .receive 1 (Line.write "ECHO STATS"), .serve 1 "noon", .serve 1 "noon",
        .serve 1 "noon", .receive 0 (Utf8.encode "QUIT"), .finish 0, .serve 1 "noon",
        .serve 1 "noon", .serve 1 "noon", .serve 1 "noon", .serve 1 "noon", .serve 1 "noon"] rfl⟩
  have alone : History 1 _ _ := ⟨_, _, 1, Opening.founded (by decide) (by decide),
    Machine.reaches_of_run
      [.connect "a", .look, .look, .accept, .look, .hand 0, .ask 0,
        .receive 0 (Utf8.encode "STATS\nQUIT"), .finish 0, .serve 0 "noon", .serve 0 "noon",
        .serve 0 "noon", .serve 0 "noon", .serve 0 "noon", .serve 0 "noon", .serve 0 "noon",
        .serve 0 "noon", .serve 0 "noon", .serve 0 "noon", .serve 0 "noon"] rfl⟩
  refine ⟨_, _, _, _, _, _, crowded, rfl, ?sends, alone, rfl, ?same, rfl, rfl,
    (no_cross_talk crowded rfl ?sends).1 alone rfl ?same⟩
  case sends => exact ⟨[], rfl, .inr rfl⟩
  case same => exact ⟨[], rfl, .inr rfl⟩

end LineService.Service
