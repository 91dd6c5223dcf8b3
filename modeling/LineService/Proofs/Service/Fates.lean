import LineService.Proofs.Crew.Shutdown
import LineService.Proofs.Service.Count

/-!
# What becomes of the connections

When a service has ended its crew is at rest and its reception is over, so of the places that a
connection can be in only three are left: it was served to its end, it was released from the queue,
or it was turned away (`History.perm_fates`).  In each of them its stream is closed
(`History.closed_of_returned`), and nobody is counted any more (`History.nobody_counted`).
-/

set_option autoImplicit false

namespace LineService.Service

variable {s : Service} {n : Nat} {es : List Entry} {i : Nat} {x : Session}

/-- When a service has ended all its workers have gone home and nobody waits in the queue. -/
theorem History.rest_of_ended (history : History n s es) (ended : s.stage = .ended) :
    (∀ w ∈ s.crew.workers, w = .exited) ∧ s.crew.queue.tasks = [] := by
  obtain ⟨cs, crew, -⟩ := history.ofCrew
  have rest := crew.atRest (history.staged.ended ended)
  exact ⟨rest.gone, rest.nothing⟩

/-- Workers that have gone home have nothing in hand. -/
theorem inHand_eq_nil {crew : Crew Nat} (gone : ∀ w ∈ crew.workers, w = .exited) :
    Crew.inHand crew = [] := by
  rw [Crew.inHand, List.filterMap_eq_nil_iff]
  intro w member
  rw [gone w member]
  rfl

/-- When a service has ended its reception is over, and nothing is left in its hands. -/
theorem History.over_of_ended (history : History n s es) (ended : s.stage = .ended) :
    s.reception.phase = .over ∧ s.reception.inHand = [] := by
  have past := history.staged.past (by simp [ended])
  exact ⟨past, by simp [Reception.inHand, past]⟩

/-- **A service ends only when it has been asked to stop.** -/
theorem History.requested_of_ended (history : History n s es) (ended : s.stage = .ended) :
    s.reception.requested = true := by
  obtain ⟨firstId, reception⟩ := history.reception
  exact Reception.requested_of_over reception (history.over_of_ended ended).1

/-- No connection is returned twice. -/
theorem History.returned_nodup (history : History n s es) :
    (Reception.returned (receptionEvents es)).Nodup := by
  have listed : (Reception.returned (receptionEvents es) ++ s.reception.backlog).Nodup :=
    history.booked.listed ▸ List.nodup_range
  exact (List.nodup_append.mp listed).1

/-- **Three fates.**  When a service has ended, the connections that accepting returned are those
that were served to their end, those that were released and those that were turned away. -/
theorem History.perm_fates (history : History n s es) (ended : s.stage = .ended) :
    (Reception.returned (receptionEvents es)).Perm
      (Crew.carriedOut (crewEvents es) ++ Crew.released (crewEvents es) ++
        Reception.turnedAway (receptionEvents es)) := by
  obtain ⟨firstId, reception⟩ := history.reception
  obtain ⟨gone, nothing⟩ := history.rest_of_ended ended
  have settled := Reception.perm_settled (receptionEvents es)
  have handed := history.perm_handedOut
  rw [inHand_eq_nil gone, List.append_nil] at handed
  rw [← history.booked.handed, history.booked.refused, history.accepted_eq, nothing,
    List.append_nil, List.append_nil] at settled
  rw [Reception.returned_eq_settled reception, (history.over_of_ended ended).2, List.append_nil]
  exact settled.trans ((handed.append_right _).append_right _)

/-- Every connection that was returned is one of those there are. -/
theorem History.session_of_returned (history : History n s es)
    (returned : i ∈ Reception.returned (receptionEvents es)) : ∃ x, s.sessions[i]? = some x := by
  have listed : i ∈ List.range s.sessions.length :=
    history.booked.listed ▸ List.mem_append_left _ returned
  exact ⟨_, List.getElem?_eq_getElem (List.mem_range.mp listed)⟩

/-- A session that was closed unserved has sent nothing and been asked nothing. -/
theorem History.silent_of_unserved (history : History n s es) (here : s.sessions[i]? = some x)
    (unserved : i ∈ unserved es) :
    x.phase = .discarded ∧ x.output = [] ∧ Session.asked (courseOf i es) = [] := by
  have discarded := (history.lodged here).unserved.mpr unserved
  obtain ⟨sent, asked⟩ := Session.Course.silent (history.course here) (.inr discarded)
  exact ⟨discarded, by rw [Session.output, sent]; rfl, asked⟩

/-- **No stream is left open**: when a service has ended, every connection that was returned is
closed. -/
theorem History.closed_of_returned (history : History n s es) (ended : s.stage = .ended)
    (returned : i ∈ Reception.returned (receptionEvents es)) :
    ∃ x, s.sessions[i]? = some x ∧ x.isOpen = false := by
  obtain ⟨x, here⟩ := history.session_of_returned returned
  have lodged := history.lodged here
  refine ⟨x, here, ?_⟩
  have fate := (history.perm_fates ended).mem_iff.mp returned
  rw [List.mem_append, List.mem_append] at fate
  rcases fate with (served | released) | turnedAway
  · simp [Session.isOpen, lodged.late served]
  · have unserved : i ∈ unserved es := by simp [unserved, released]
    simp [Session.isOpen, lodged.unserved.mpr unserved]
  · have unserved : i ∈ unserved es := by simp [unserved, turnedAway]
    simp [Session.isOpen, lodged.unserved.mpr unserved]

/-- When a service has ended nobody is counted. -/
theorem History.nobody_counted (history : History n s es) (ended : s.stage = .ended) :
    s.tally.get = .ok 0 := by
  have uncounted : s.sessions.countP Session.isCounted = 0 := by
    rw [List.countP_eq_zero]
    intro x member counted
    obtain ⟨i, less, rfl⟩ := List.mem_iff_getElem.mp member
    have held := history.held (List.getElem?_eq_getElem less) counted
    rw [inHand_eq_nil (history.rest_of_ended ended).1] at held
    cases held
  rw [history.tally_eq, uncounted]
  rfl

/-- No connection is accepted by the crew twice. -/
theorem History.accepted_nodup (history : History n s es) :
    (Crew.accepted (crewEvents es)).Nodup := by
  have settled : (Reception.settled (receptionEvents es)).Nodup := by
    obtain ⟨firstId, reception⟩ := history.reception
    have returned := history.returned_nodup
    rw [Reception.returned_eq_settled reception] at returned
    exact (List.nodup_append.mp returned).1
  rw [(Reception.perm_settled _).nodup_iff, ← history.booked.handed] at settled
  exact (List.nodup_append.mp (List.nodup_append.mp settled).1).1

/-- A connection that was served to its end was served by one worker, the only one it was handed
to. -/
theorem History.served_by_one (history : History n s es)
    (served : i ∈ Crew.carriedOut (crewEvents es)) :
    ∃ k, i ∈ Crew.finishedBy k (crewEvents es) ∧
      ∀ j, i ∈ Crew.handedTo j (crewEvents es) → j = k := by
  obtain ⟨cs, crew, accepted, -⟩ := history.ofCrew
  obtain ⟨⟨k, i⟩, share, rfl⟩ := List.mem_map.mp served
  have finished : i ∈ Crew.finishedBy k (crewEvents es) := Crew.mem_shareOf.mpr share
  have handed : i ∈ Crew.handedTo k (cs ++ crewEvents es) := by
    rw [crew.handedTo_eq k, Crew.finishedBy_append]
    exact List.mem_append_left _ (List.mem_append_right _ finished)
  have distinct : (Crew.accepted (cs ++ crewEvents es)).Nodup := by
    rw [Crew.accepted_append, accepted]
    exact history.accepted_nodup
  refine ⟨k, finished, fun j other => crew.handedTo_unique distinct ?_ handed⟩
  rw [Crew.handedTo_append]
  exact List.mem_append_right _ other

/-- **Every connection has one fate, and none is left open.**  When a service has ended, whatever
clients, workers and those who stop the service have done in whatever order:

* it had been asked to stop, and all its workers have gone home;
* each connection that accepting returned was served to its end, or released from the queue, or
  turned away by the reception, and only one of these;
* one that was served was handed to one worker, which served its session until it was over; the
  others were handed to none, and nothing was sent on them;
* the stream of each of them is closed, and no client is counted. -/
theorem one_fate_each (history : History n s es) (ended : s.stage = .ended) :
    s.reception.requested = true ∧ (∀ w ∈ s.crew.workers, w = .exited) ∧
      (Reception.returned (receptionEvents es)).Perm
        (Crew.carriedOut (crewEvents es) ++ Crew.released (crewEvents es) ++
          Reception.turnedAway (receptionEvents es)) ∧
      (Crew.carriedOut (crewEvents es) ++ Crew.released (crewEvents es) ++
        Reception.turnedAway (receptionEvents es)).Nodup ∧
      (∀ i ∈ Crew.carriedOut (crewEvents es),
        (∃ k, i ∈ Crew.finishedBy k (crewEvents es) ∧
          ∀ j, i ∈ Crew.handedTo j (crewEvents es) → j = k) ∧
        ∃ x, s.sessions[i]? = some x ∧ x.phase = .over) ∧
      (∀ i ∈ Crew.released (crewEvents es) ++ Reception.turnedAway (receptionEvents es),
        (∀ k, i ∉ Crew.handedTo k (crewEvents es)) ∧
        ∃ x, s.sessions[i]? = some x ∧ x.phase = .discarded ∧ x.output = []) ∧
      (∀ i ∈ Reception.returned (receptionEvents es),
        ∃ x, s.sessions[i]? = some x ∧ x.isOpen = false) ∧
      s.tally.get = .ok 0 := by
  have fates := history.perm_fates ended
  refine ⟨history.requested_of_ended ended, (history.rest_of_ended ended).1, fates,
    fates.nodup_iff.mp history.returned_nodup, fun i served => ?_, fun i unserved => ?_,
    fun i => history.closed_of_returned ended, history.nobody_counted ended⟩
  · obtain ⟨x, here⟩ := history.session_of_returned (fates.mem_iff.mpr
      (List.mem_append_left _ (List.mem_append_left _ served)))
    exact ⟨history.served_by_one served, x, here, (history.lodged here).late served⟩
  · rw [List.mem_append] at unserved
    have returned : i ∈ Reception.returned (receptionEvents es) := by
      rw [fates.mem_iff, List.append_assoc, List.mem_append, List.mem_append]
      exact .inr unserved
    have member : i ∈ Service.unserved es := by
      rcases unserved with released | turnedAway
      · simp [Service.unserved, released]
      · simp [Service.unserved, turnedAway]
    obtain ⟨x, here⟩ := history.session_of_returned returned
    obtain ⟨discarded, silent, -⟩ := history.silent_of_unserved here member
    refine ⟨fun k handed => ?_, x, here, discarded, silent⟩
    -- What was handed to a worker was handed out, and that is not closed unserved.
    have out : i ∈ Crew.handedOut (crewEvents es) :=
      List.mem_map.mpr ⟨(k, i), Crew.mem_shareOf.mp handed, rfl⟩
    exact history.not_unserved out member

/-- A service with one worker serves the first connection, releases the second, which was still
waiting, and turns the third away, by which it was woken. -/
theorem one_fate_each_three_ways :
    ∃ s es, History 1 s es ∧ s.stage = .ended ∧
      Crew.carriedOut (crewEvents es) = [0] ∧ Crew.released (crewEvents es) = [1] ∧
      Reception.turnedAway (receptionEvents es) = [2] ∧
      s.reception.requested = true ∧
      (Reception.returned (receptionEvents es)).Perm [0, 1, 2] ∧ s.tally.get = .ok 0 ∧
      ∀ i ∈ Reception.returned (receptionEvents es),
        ∃ x, s.sessions[i]? = some x ∧ x.isOpen = false := by
  have history : History 1 _ _ :=
    ⟨_, _, 1, Opening.founded (by decide) (by decide), Machine.reaches_of_run
      [.connect "a", .look, .look, .accept, .look, .hand 0, .ask 0, .connect "b", .look, .accept,
        .look, .hand 0, .look, .request 0, .request 1, .wake (.ok "w"), .accept, .look, .proceed,
        .serve 0 "noon", .finish 0, .serve 0 "noon", .proceed, .serve 0 "noon", .serve 0 "noon",
        .serve 0 "noon", .serve 0 "noon", .retire 0, .ask 0, .proceed, .proceed, .proceed,
        .proceed, .proceed] rfl⟩
  obtain ⟨requested, -, fates, -, -, -, closed, nobody⟩ := one_fate_each history rfl
  exact ⟨_, _, history, rfl, rfl, rfl, rfl, requested, fates, nobody, closed⟩

end LineService.Service
