import LineService.Crew.Settle
import LineService.Proofs.Crew.Accounting

/-!
# Founding a crew

Starting workers either starts all of them or ends with the founder shutting the crew down again
(`spawnAll_cases`).  So a crew that has been founded has come by a history of its own to have all
its workers and to be running, and no task has been given to it (`history_of_found`): when it is
handed over it runs until it rests, and in this only its workers take part, at the queue.
-/

set_option autoImplicit false

namespace LineService.Crew

variable {α : Type} {c d : Crew α} {l : Label α} {es : List (Event α)}

/-! ## Steps that belong to tasks -/

/-- The step belongs to a task: it is offered, asked for, waited for or finished. -/
def Label.isTask : Label α → Bool
  | .submit .. | .ask _ | .resume _ | .stir _ | .finish .. => true
  | _ => false

/-- A worker at the queue neither offers nor finishes a task, nor shuts anything down. -/
theorem of_queueing (queueing : ∃ k, l = .ask k ∨ l = .resume k ∨ l = .stir k) :
    l.isTask ∧ l ≠ .advance ∧ (∀ a pick, l ≠ .submit a pick) ∧
      ∀ k outcome, l ≠ .finish k outcome := by
  obtain ⟨k, rfl | rfl | rfl⟩ := queueing <;> simp [Label.isTask]

/-- What belongs to a task does not change how far the crew has come, nor who shuts it down. -/
theorem life_of_task (turn : Turn c l d es) (task : l.isTask) :
    d.life = c.life ∧ d.closer = c.closer := by
  cases turn with
  | spawnFailed | handedOver | signalled | closed | joined | joinedAll | drained | ended =>
      cases task
  | _ => exact ⟨rfl, rfl⟩

/-- Only a task that is offered is accepted. -/
theorem accepted_of_turn (turn : Turn c l d es) (other : ∀ a pick, l ≠ .submit a pick) :
    accepted es = [] := by
  cases turn with
  | accepted a pick => exact absurd rfl (other a pick)
  | _ => rfl

/-- Only whoever shuts a crew down releases tasks. -/
theorem released_of_turn (turn : Turn c l d es) (other : l ≠ .advance) : released es = [] := by
  cases turn with
  | drained => exact absurd rfl other
  | _ => rfl

/-- Only a task that is finished has been carried out. -/
theorem carriedOut_of_turn (turn : Turn c l d es) (other : ∀ k outcome, l ≠ .finish k outcome) :
    carriedOut es = [] := by
  cases turn with
  | finished k task outcome => exact absurd rfl (other k outcome)
  | _ => rfl

/-! ## Starting workers -/

variable {n k size : Nat} {spawner : Nat → Except Net.Fault Unit}

/-- A crew of which `k` workers have been started, and nothing else has happened. -/
def started (size k : Nat) : Crew α :=
  ⟨size, .created, false, .empty, List.replicate k .asking, none⟩

/-- A crew of which worker `k` could not be started, and nothing else has happened since. -/
def failedAt (size k : Nat) (f : Net.Fault) : Crew α :=
  { started size k with life := .shuttingDown, closer := some (.founder k f, .closing) }

/-- A crew that has just been handed over. -/
def opened (size : Nat) : Crew α :=
  ⟨size, .running, true, .empty, List.replicate size .asking, none⟩

theorem step_spawn_ok (room : k < size) :
    (started size k : Crew α).step (.spawn (.ok ())) =
      some (started size (k + 1), [.spawned k]) := by
  simp [started, step, room, List.replicate_succ']

theorem step_spawn_error (room : k < size) (f : Net.Fault) :
    (started size k : Crew α).step (.spawn (.error f)) =
      some (failedAt size k f, [.spawnFailed k f, .signalled]) := by
  simp [failedAt, started, step, room]

theorem step_handOver (size : Nat) :
    (started size size : Crew α).step .handOver =
      some (opened size, [.handedOver size]) := by
  simp [started, opened, step]

/-- All workers can be started, one after the other. -/
theorem reaches_started (le : k ≤ size) :
    Machine.Reaches step (started size 0 : Crew α) (started size k)
      ((List.range k).map .spawned) := by
  induction k with
  | zero => exact .refl
  | succ k ih =>
      rw [List.range_succ, List.map_append]
      exact (ih (Nat.le_of_succ_le le)).tail (step_spawn_ok le)

/-- A crew of any number of workers can be founded. -/
theorem history_opened (positive : 0 < n) :
    History n (opened n : Crew α) ((List.range n).map .spawned ++ [.handedOver n]) :=
  ⟨started n 0, if_neg (Nat.ne_of_gt positive),
    (reaches_started (Nat.le_refl n)).tail (step_handOver n)⟩

/-- Founding a crew gives it nothing to do. -/
theorem accepted_opened (n : Nat) :
    accepted ((List.range n).map .spawned ++ [.handedOver n] : List (Event α)) = [] := by
  have silent : atQueueEvents ((List.range n).map .spawned : List (Event α)) = [] := by
    rw [atQueueEvents, List.filterMap_map, List.filterMap_eq_nil_iff]
    exact fun _ _ => rfl
  rw [accepted_append, accepted, silent]
  rfl

/-- No worker is started once the crew is being shut down. -/
theorem spawnAll_of_late (spawner : Nat → Except Net.Fault Unit) (n : Nat)
    (late : c.life ≠ .created) : spawnAll spawner n c = (c, []) := by
  cases n with
  | zero => rfl
  | succ n => simp [spawnAll, step, late]

/-- **Starting workers** starts all of them, or ends with the founder shutting the crew down. -/
theorem spawnAll_cases (room : k + n ≤ size) {r : Crew α × List (Event α)}
    (spawned : spawnAll spawner n (started size k) = r) :
    (∃ j f, r.1.closer = some (.founder j f, .closing)) ∨
      r.1 = started size (k + n) ∧ Machine.Reaches step (started size k) r.1 r.2 ∧
        accepted r.2 = [] := by
  subst spawned
  induction n generalizing k with
  | zero => exact .inr ⟨rfl, .refl, rfl⟩
  | succ n ih =>
      have here : k < size := by omega
      have next : (started size k : Crew α).workers.length = k := List.length_replicate
      cases answer : spawner k with
      | error f =>
          left
          refine ⟨k, f, ?_⟩
          have rest := spawnAll_of_late (c := (failedAt size k f : Crew α)) spawner n
            (by simp [failedAt])
          simp only [spawnAll, next, answer, step_spawn_error here, rest]
          rfl
      | ok =>
          simp only [spawnAll, next, answer, step_spawn_ok here]
          rcases ih (k := k + 1) (by omega) with failed | ⟨all, reached, silent⟩
          · exact .inl failed
          · refine .inr ⟨?_, (Machine.Reaches.single (step_spawn_ok here)).trans reached, ?_⟩
            · rw [all, Nat.add_right_comm]
              rfl
            · rw [accepted_append, silent]
              rfl

/-! ## The crew at rest -/

/-- Where nobody shuts a crew down, only workers at the queue have a step to take. -/
theorem queueing_of_nextTurn (nobody : c.closer = none) (chosen : c.nextTurn = some l) :
    ∃ k, l = .ask k ∨ l = .resume k ∨ l = .stir k := by
  simp only [nextTurn] at chosen
  split at chosen
  · cases chosen
    exact ⟨_, .inl rfl⟩
  · split at chosen
    · cases chosen
      exact ⟨_, .inr (.inl rfl)⟩
    · simp [advance, nobody] at chosen

/-- A crew that nobody shuts down goes on running until it rests, and is given nothing. -/
theorem settle_of_running (running : c.life = .running) (nobody : c.closer = none) :
    c.settle.1.life = .running ∧ accepted c.settle.2 = [] := by
  have kept := Machine.settle_induct step nextTurn c.stepBound
    (motive := fun d es => (d.life = .running ∧ d.closer = none) ∧ accepted es = [])
    ⟨⟨running, nobody⟩, rfl⟩
    fun {d e es fs l} chosen taken ⟨⟨running, nobody⟩, nothing⟩ => by
      obtain ⟨task, -, other, -⟩ := of_queueing (queueing_of_nextTurn nobody chosen)
      have turn := turn_of_step taken
      obtain ⟨life, closer⟩ := life_of_task turn task
      refine ⟨⟨life.trans running, closer.trans nobody⟩, ?_⟩
      rw [accepted_append, nothing, accepted_of_turn turn other]
      rfl
  exact ⟨kept.1.1, kept.2⟩

/-- What founding comes to when all workers can be started. -/
theorem found_eq (nonzero : size ≠ 0) {r : Crew α × List (Event α)}
    (spawned : spawnAll spawner size (started size 0) = r) (all : r.1 = started size size) :
    (found size spawner : Founding α) =
      ⟨.ok (opened size).settle.1, .some (opened size).settle.1,
        r.2 ++ (.handedOver size :: (opened size).settle.2)⟩ := by
  have new' : (new size : Except FoundingError (Crew α)) = .ok (started size 0) := if_neg nonzero
  have nobody : (started size size : Crew α).closer = none := rfl
  simp only [found, new', spawned, all, nobody, stepAndSettle, step_handOver]
  rfl

/-- What founding comes to when one cannot. -/
theorem found_error (nonzero : size ≠ 0) {r : Crew α × List (Event α)}
    (spawned : spawnAll spawner size (started size 0) = r) {j : Nat} {f : Net.Fault}
    (failed : r.1.closer = .some (.founder j f, .closing)) :
    (found size spawner : Founding α) =
      ⟨.error (.workerFailed j f), .some r.1.settle.1, r.2 ++ r.1.settle.2⟩ := by
  have new' : (new size : Except FoundingError (Crew α)) = .ok (started size 0) := if_neg nonzero
  simp only [found, new', spawned, failed]

/-- **A crew that has been founded** has come to have all its workers, is running, and has been
given nothing. -/
theorem history_of_found (founded : (found size spawner).result = .ok c) :
    History size c (found size spawner).events ∧ c.life = .running ∧
      accepted (found size spawner : Founding α).events = [] := by
  have nonzero : size ≠ 0 := by
    rintro rfl
    cases founded
  obtain ⟨r, spawned⟩ : ∃ r, spawnAll spawner size (started size 0 : Crew α) = r := ⟨_, rfl⟩
  rcases spawnAll_cases (Nat.le_of_eq (Nat.zero_add size)) spawned with
    ⟨j, f, failed⟩ | ⟨all, reached, nothing⟩
  · rw [found_error nonzero spawned failed] at founded
    cases founded
  · rw [Nat.zero_add] at all
    rw [found_eq nonzero spawned all] at founded ⊢
    cases founded
    obtain ⟨running, silent⟩ := settle_of_running (c := (opened size : Crew α)) rfl rfl
    refine ⟨⟨started size 0, if_neg nonzero, ?_⟩, running, ?_⟩
    · have ready := (all ▸ reached).tail (step_handOver size)
      simpa [settle] using Machine.reaches_settle step nextTurn (opened size).stepBound ready
    · rw [accepted_append, nothing]
      exact silent

end LineService.Crew
