import LineService.Proofs.Service.Turns

/-!
# Where every connection is

The reception, the crew and the service keep separate books of the connections.  They agree: the
tasks that the crew has accepted are the connections that the reception has handed over, and what
accepting has returned, with what is still waiting to be accepted, are all connections in the order
in which they were made (`History.booked`).

As long as the reception is not over nobody shuts the crew down (`History.staged`).  So the crew
refuses no connection, and each connection is in exactly one place (`History.perm_roll`): it has
been served to its end, a worker has it in hand, it was released or turned away, or it waits in the
queue, in the hands of the reception, or to be accepted.
-/

set_option autoImplicit false

namespace LineService.Service

variable {s t : Service} {l : Label} {n : Nat} {es fs : List Entry}

/-! ## Who comes first -/

/-- What whoever runs the service has done says how far the reception and the crew have come. -/
structure Staged (s : Service) : Prop where
  receiving : s.stage = .receiving → s.crew.life = .running
  past : s.stage ≠ .receiving → s.reception.phase = .over
  ended : s.stage = .ended → s.crew.life = .terminated

/-- A reception that is over stays so. -/
theorem Staged.receive (staged : Staged s) {m : Reception.Label Nat} {r : Reception Nat}
    {rs : List (Reception.Event Nat)} (taken : s.reception.step m = some (r, rs))
    (reception : t.reception = r) (crew : t.crew.life = s.crew.life) (stage : t.stage = s.stage) :
    Staged t where
  receiving := fun here => crew.trans (staged.receiving (stage.symm.trans here))
  past := fun later => by
    rw [reception]
    exact (Reception.over_of_turn (Reception.turn_of_step taken)).1
      (staged.past fun here => later (stage.trans here))
  ended := fun here => crew.trans (staged.ended (stage.symm.trans here))

/-- What belongs to a task changes nothing of this. -/
theorem Staged.work (staged : Staged s) (reception : t.reception = s.reception)
    (crew : t.crew.life = s.crew.life) (stage : t.stage = s.stage) : Staged t where
  receiving := fun here => crew.trans (staged.receiving (stage.symm.trans here))
  past := fun later => reception ▸ staged.past fun here => later (stage.trans here)
  ended := fun here => crew.trans (staged.ended (stage.symm.trans here))

theorem Staged.turn (staged : Staged s) (turn : Turn s l t fs) : Staged t := by
  cases turn with
  | joined _ _ _ _ taken | received taken | numbered _ _ taken | turnedAway _ taken =>
      exact staged.receive taken rfl rfl rfl
  | handed _ _ _ submitted taken | refused _ _ _ submitted taken =>
      exact staged.receive taken rfl (Crew.life_of_task (Crew.turn_of_step submitted) rfl).1 rfl
  | queued queueing taken =>
      have task := (Crew.of_queueing queueing).1
      exact staged.work rfl (Crew.life_of_task (Crew.turn_of_step taken) task).1 rfl
  | retired _ _ _ _ _ taken =>
      exact staged.work rfl (Crew.life_of_task (Crew.turn_of_step taken) rfl).1 rfl
  | closing _ past => exact ⟨nofun, fun _ => past, nofun⟩
  | advanced closing =>
      have past := staged.past (by simp [closing])
      exact ⟨by simp [closing], fun _ => by simpa using past, by simp [closing]⟩
  | ended closing terminated =>
      exact ⟨nofun, fun _ => staged.past (by simp [closing]), fun _ => terminated⟩
  | _ => exact staged.work rfl rfl rfl

theorem History.staged (history : History n s es) : Staged s := by
  induction history using History.induct with
  | start opening => exact ⟨fun _ => opening.running, fun later => absurd rfl later, nofun⟩
  | next _ turn _ ih => exact ih.turn turn

/-! ## The history of the crew -/

/-- A crew that has never been given a task has handed out and released none. -/
theorem Opening.nothing {crew : Crew Nat} {cs : List (Crew.Event Nat)}
    (opening : Opening n crew cs) :
    Crew.handed cs = [] ∧ Crew.released cs = [] ∧ Crew.finished cs = [] := by
  have nothing := opening.history.accepted_eq
  rw [opening.unused, eq_comm, List.append_eq_nil_iff, List.append_eq_nil_iff] at nothing
  obtain ⟨⟨handedOut, released⟩, -⟩ := nothing
  have handed : Crew.handed cs = [] := List.map_eq_nil_iff.mp handedOut
  exact ⟨handed, released,
    List.eq_nil_of_subset_nil (handed ▸ opening.history.finished_subset_handed)⟩

/-- **The crew of a service has a history**, and no task of it is older than the service. -/
theorem History.ofCrew (history : History n s es) :
    ∃ cs, Crew.History n s.crew (cs ++ crewEvents es) ∧ Crew.accepted cs = [] ∧
      Crew.handed cs = [] ∧ Crew.released cs = [] ∧ Crew.finished cs = [] := by
  obtain ⟨crew, cs, opening, reached⟩ := history.crew
  exact ⟨cs, opening.history.trans reached, opening.unused, opening.nothing⟩

/-- The tasks that the crew accepted were handed out or released, or wait. -/
theorem History.accepted_eq (history : History n s es) :
    Crew.accepted (crewEvents es) =
      Crew.handedOut (crewEvents es) ++ Crew.released (crewEvents es) ++ s.crew.queue.tasks := by
  obtain ⟨cs, crew, accepted, handed, released, -⟩ := history.ofCrew
  simpa [accepted, released, Crew.handedOut, handed] using crew.accepted_eq

/-- The tasks that were handed out have been finished or are in hand. -/
theorem History.perm_handedOut (history : History n s es) :
    (Crew.handedOut (crewEvents es)).Perm
      (Crew.carriedOut (crewEvents es) ++ Crew.inHand s.crew) := by
  obtain ⟨cs, crew, -, handed, -, finished⟩ := history.ofCrew
  simpa [Crew.handedOut, handed, Crew.carriedOut, finished] using crew.perm_handedOut

/-- **No connection is refused.**  The crew's queue is open as long as the reception hands over. -/
theorem History.opened (history : History n s es) (going : s.reception.phase ≠ .over) :
    s.crew.queue.closed = false := by
  obtain ⟨cs, crew, -⟩ := history.ofCrew
  have receiving : s.stage = .receiving := by
    by_contra later
    exact going (history.staged.past later)
  exact (crew.standing.of_running (history.staged.receiving receiving)).2.2

/-! ## Books -/

/-- The books agree. -/
structure Booked (s : Service) (es : List Entry) : Prop where
  handed : Crew.accepted (crewEvents es) = Reception.handed (receptionEvents es)
  refused : Reception.refused (receptionEvents es) = []
  /-- Connections are returned in the order in which they are made. -/
  listed : Reception.returned (receptionEvents es) ++ s.reception.backlog =
    List.range s.sessions.length

/-- What the reception does with its connections, where no connection is made. -/
theorem Booked.receive (booked : Booked s es) {m : Reception.Label Nat} {r : Reception Nat}
    {rs : List (Reception.Event Nat)} (taken : s.reception.step m = some (r, rs))
    (nobody : m.arrivals = []) (reception : t.reception = r)
    (sessions : t.sessions.length = s.sessions.length) (record : receptionEvents fs = rs)
    (handed : Crew.accepted (crewEvents fs) = Reception.handed rs)
    (refused : Reception.refused rs = []) : Booked t (es ++ fs) where
  handed := by
    rw [crewEvents_append, Crew.accepted_append, booked.handed, handed, receptionEvents_append,
      Reception.handed_append, record]
  refused := by
    rw [receptionEvents_append, Reception.refused_append, booked.refused, record, refused]
    rfl
  listed := by
    have same := Reception.backlog_of_turn (Reception.turn_of_step taken)
    rw [nobody, List.append_nil] at same
    rw [receptionEvents_append, Reception.returned_append, record, reception, List.append_assoc,
      same, booked.listed, sessions]

/-- What leaves the reception alone. -/
theorem Booked.work (booked : Booked s es) (reception : t.reception = s.reception)
    (sessions : t.sessions.length = s.sessions.length) (record : receptionEvents fs = [])
    (nothing : Crew.accepted (crewEvents fs) = []) : Booked t (es ++ fs) where
  handed := by simpa [record, nothing] using booked.handed
  refused := by simpa [record] using booked.refused
  listed := by simpa [record, reception, sessions] using booked.listed

/-- A reception that settles no connection hands none over, refuses none and turns none away. -/
theorem nothing_of_settled {rs : List (Reception.Event Nat)} (going : Reception.settled rs = []) :
    Reception.handed rs = [] ∧ Reception.refused rs = [] ∧ Reception.turnedAway rs = [] := by
  have settled := Reception.perm_settled rs
  rw [going] at settled
  have all := settled.symm.eq_nil
  rw [List.append_eq_nil_iff, List.append_eq_nil_iff, and_assoc] at all
  exact all

theorem Booked.turn (booked : Booked s es) (history : History n s es) (turn : Turn s l t fs) :
    Booked t (es ++ fs) := by
  cases turn with
  | @joined _ x m r rs new fresh arrives taken =>
      have same := Reception.backlog_of_turn (Reception.turn_of_step taken)
      have nothing : Reception.handed rs = [] ∧ Reception.refused rs = [] := by
        cases Reception.turn_of_step taken with
        | connected | woke => exact ⟨rfl, rfl⟩
        | _ => cases arrives
      refine ⟨by simpa [nothing] using booked.handed, by simpa [nothing] using booked.refused, ?_⟩
      simp [same, arrives, List.range_succ, ← booked.listed]
  | @received _ _ _ rs taken nobody going =>
      obtain ⟨handed, refused, -⟩ := nothing_of_settled going
      have silent : Crew.accepted (crewEvents (ofReception rs)) = Reception.handed rs := by
        rw [crewEvents_ofReception, handed]
        rfl
      exact booked.receive taken nobody rfl rfl (by simp) silent refused
  | numbered _ _ taken | turnedAway _ taken =>
      exact booked.receive taken rfl rfl (by simp) (by simp) (by simp; rfl) rfl
  | handed _ _ _ _ taken =>
      exact booked.receive taken rfl rfl rfl (by simp) (by simp; rfl) rfl
  | refused pick c id submitted taken =>
      have shut : s.crew.queue.closed = true := by
        rcases Crew.submit_cases submitted with ⟨-, other, -⟩ | ⟨shut, -⟩
        · cases other
        · exact shut
      have going : s.reception.phase ≠ .over := by
        cases Reception.turn_of_step taken with
        | refused _ _ handing => simp [handing]
      exact absurd (shut.symm.trans (history.opened going)) (by simp)
  | queued queueing taken =>
      obtain ⟨-, -, other, -⟩ := Crew.of_queueing queueing
      refine booked.work rfl rfl (by simp) ?_
      simpa using Crew.accepted_of_turn (Crew.turn_of_step taken) other
  | retired => exact booked.work rfl rfl (by simp) (by simp; rfl)
  | closing _ _ taken =>
      refine booked.work rfl rfl (by simp) ?_
      simpa using Crew.accepted_of_turn (Crew.turn_of_step taken) (by simp)
  | advanced _ taken =>
      refine booked.work (by simp) (by simp) (by simp) ?_
      simpa using Crew.accepted_of_turn (Crew.turn_of_step taken) (by simp)
  | ended => exact booked.work rfl rfl rfl rfl
  | unheard => exact booked.work rfl rfl rfl rfl
  | heard | served => exact booked.work rfl (by simp) (by simp) (by simp; rfl)

/-- **The books agree.** -/
theorem History.booked (history : History n s es) : Booked s es := by
  induction history using History.induct with
  | start => exact ⟨rfl, rfl, rfl⟩
  | next before turn _ ih => exact ih.turn before turn

/-! ## The roll -/

/-- The connections that were closed without having been served: released from the queue, refused
by the crew, or turned away by the reception. -/
def unserved (es : List Entry) : List Nat :=
  Crew.released (crewEvents es) ++ Reception.refused (receptionEvents es) ++
    Reception.turnedAway (receptionEvents es)

@[simp] theorem unserved_nil : unserved [] = [] := rfl

@[simp] theorem unserved_ended (active : Nat) : unserved [.event (.ended active)] = [] := rfl

@[simp] theorem unserved_ofNotes (m : Nat) (gs : List Session.Event) :
    unserved (ofNotes m gs) = [] := by
  rw [unserved, crewEvents_ofNotes, receptionEvents_ofNotes]
  rfl

@[simp] theorem unserved_ofActs (m : Nat) (acts : List Session.Act) :
    unserved (ofActs m acts) = [] := by
  rw [unserved, crewEvents_ofActs, receptionEvents_ofActs]
  rfl

@[simp] theorem unserved_ofCrew (cs : List (Crew.Event Nat)) :
    unserved (ofCrew cs) = Crew.released cs := by
  rw [unserved, crewEvents_ofCrew, receptionEvents_ofCrew, List.append_assoc]
  exact List.append_nil _

@[simp] theorem unserved_ofReception (rs : List (Reception.Event Nat)) :
    unserved (ofReception rs) = Reception.refused rs ++ Reception.turnedAway rs := by
  rw [unserved, crewEvents_ofReception, receptionEvents_ofReception]
  rfl

@[simp] theorem unserved_shuttingDown (es : List Entry) :
    unserved (.event .shuttingDown :: es) = unserved es := rfl

theorem perm_unserved_append (es fs : List Entry) :
    (unserved (es ++ fs)).Perm (unserved es ++ unserved fs) := by
  rw [List.perm_iff_count]
  intro i
  simp only [unserved, crewEvents_append, receptionEvents_append, Crew.released_append,
    Reception.refused_append, Reception.turnedAway_append, List.count_append]
  omega

@[simp] theorem mem_unserved_append {i : Nat} :
    i ∈ unserved (es ++ fs) ↔ i ∈ unserved es ∨ i ∈ unserved fs := by
  rw [(perm_unserved_append es fs).mem_iff, List.mem_append]

/-- The connections that wait to be served. -/
def waiting (s : Service) : List Nat :=
  s.crew.queue.tasks ++ s.reception.inHand ++ s.reception.backlog

/-- **Each connection is in one place**: it has been handed to a worker, closed unserved, or
waits. -/
theorem History.perm_roll (history : History n s es) :
    (Crew.handedOut (crewEvents es) ++ unserved es ++ s.waiting).Perm
      (List.range s.sessions.length) := by
  obtain ⟨handed, refused, listed⟩ := history.booked
  obtain ⟨firstId, reception⟩ := history.reception
  have settled := Reception.perm_settled (receptionEvents es)
  rw [← handed, refused, List.append_nil, history.accepted_eq] at settled
  rw [← listed, Reception.returned_eq_settled reception]
  refine List.Perm.trans ?_ ((settled.symm.append_right _).append_right _)
  rw [List.perm_iff_count]
  intro i
  simp only [unserved, waiting, refused, List.count_append, List.count_nil]
  omega

theorem History.roll_nodup (history : History n s es) :
    (Crew.handedOut (crewEvents es) ++ unserved es ++ s.waiting).Nodup :=
  history.perm_roll.nodup_iff.mpr List.nodup_range

/-- No place knows of a connection that was never made. -/
theorem History.lt_of_mem_roll (history : History n s es) {i : Nat}
    (member : i ∈ Crew.handedOut (crewEvents es) ++ unserved es ++ s.waiting) :
    i < s.sessions.length :=
  List.mem_range.mp (history.perm_roll.mem_iff.mp member)

/-- No connection is closed unserved twice. -/
theorem History.unserved_nodup (history : History n s es) : (unserved es).Nodup :=
  (List.nodup_append.mp (List.nodup_append.mp history.roll_nodup).1).2.1

/-- No connection that was handed to a worker is closed unserved. -/
theorem History.not_unserved (history : History n s es) {i : Nat}
    (handed : i ∈ Crew.handedOut (crewEvents es)) : i ∉ unserved es := by
  have apart := (List.nodup_append.mp (List.nodup_append.mp history.roll_nodup).1).2.2
  exact fun member => apart i handed i member rfl

/-- Only what was handed to a worker has been carried out. -/
theorem History.handedOut_of_carriedOut (history : History n s es) {i : Nat}
    (done : i ∈ Crew.carriedOut (crewEvents es)) : i ∈ Crew.handedOut (crewEvents es) :=
  history.perm_handedOut.mem_iff.mpr (List.mem_append_left _ done)

/-- A worker is busy only with a connection that was handed out. -/
theorem History.handedOut_of_busy (history : History n s es) {k i : Nat}
    (busy : s.crew.workers[k]? = some (.busy i)) : i ∈ Crew.handedOut (crewEvents es) := by
  have held : i ∈ Crew.inHand s.crew :=
    List.mem_filterMap.mpr ⟨_, List.mem_of_getElem? busy, rfl⟩
  exact history.perm_handedOut.mem_iff.mpr (List.mem_append_right _ held)

end LineService.Service
