import LineService.Proofs.Crew.Turns
import LineService.Proofs.Queue.Wakeups

/-!
# Workers and their places at the queue

A crew and its queue keep separate books: the crew says which workers are waiting, the
queue who sleeps or has been woken.  The books agree (`History.placed`): exactly the
workers that are waiting are found at the queue.  Since the queue is attended, a waiting
worker of a crew whose queue is closed has been woken (`History.woken_of_closed`).
-/

set_option autoImplicit false

namespace LineService.Crew

variable {α : Type} {c d : Crew α} {n : Nat} {es : List (Event α)}

/-- Exactly the waiting workers are found at the queue. -/
def Placed (c : Crew α) : Prop :=
  ∀ k : Nat, k ∈ c.queue.waiting ↔ c.workers[k]? = some .waiting

theorem History.attended (history : History n c es) : c.queue.Attended :=
  Queue.attended_of_reaches history.queue

/-- The books still agree when a worker that was not waiting and a queue change alike. -/
theorem Placed.set (placed : Placed c) {k : Nat} {v w : Worker α} {q : Queue α}
    (here : c.workers[k]? = some v) (others : ∀ j, j ≠ k → (j ∈ q.waiting ↔ j ∈ c.queue.waiting))
    (self : k ∈ q.waiting ↔ w = .waiting) :
    Placed { c with queue := q, workers := c.workers.set k w } := by
  intro j
  by_cases same : j = k
  · subst same
    have less : j < c.workers.length := (List.getElem?_eq_some_iff.mp here).1
    simp [self, less]
  · simp only [others j same, List.getElem?_set_ne (Ne.symm same)]
    exact placed j

theorem Placed.turn (placed : Placed c) (attended : c.queue.Attended) {l : Label α}
    {fs : List (Event α)} (turn : Turn c l d fs) : Placed d := by
  cases turn with
  | spawned fresh room =>
      exact fun k => (placed k).trans (getElem?_concat_asking (by simp)).symm
  | accepted task pick q ready opened queued =>
      exact fun k => ((Queue.turn_of_step queued).mem_waiting_of_accepted k).trans (placed k)
  | closed who stage =>
      have turn := Queue.turn_of_step (q := c.queue) (l := .close) rfl
      exact fun k => (turn.mem_waiting_of_closed k).trans (placed k)
  | drained => exact placed
  | slept q comes looked =>
      obtain ⟨v, here, -⟩ := comes.worker
      have waits := (Queue.turn_of_step looked).mem_waiting_of_slept
      exact placed.set here (fun j apart => by simp [waits, apart]) (by simp [waits])
  | handed a q comes looked =>
      obtain ⟨v, here, -⟩ := comes.worker
      have waits := (Queue.turn_of_step looked).mem_waiting_of_handed attended.distinct
      exact placed.set here (fun j apart => by simp [waits, apart]) (by simp [waits])
  | dismissed q comes looked =>
      obtain ⟨v, here, -⟩ := comes.worker
      have waits := (Queue.turn_of_step looked).mem_waiting_of_dismissed attended.distinct
      exact placed.set here (fun j apart => by simp [waits, apart]) (by simp [waits])
  | stirred k q waiting woke =>
      have waits := (Queue.turn_of_step woke).mem_waiting_of_stirred
      exact placed.set waiting (fun j _ => waits j) (by simp [waits, placed k, waiting])
  | finished k task outcome busy =>
      exact placed.set busy (fun _ _ => Iff.rfl) (by simp [placed k, busy])
  | _ => exact placed

/-- **The books agree.**  Exactly the workers that are waiting are found at the queue. -/
theorem History.placed (history : History n c es) : Placed c := by
  induction history using History.induct with
  | start => exact fun k => by simp [Queue.waiting, Queue.empty]
  | next before turn _ ih => exact ih.turn before.attended turn

/-- Once the queue is closed, a worker that waits has been woken. -/
theorem History.woken_of_closed (history : History n c es) (shut : c.queue.closed = true)
    {k : Nat} (waiting : c.workers[k]? = some .waiting) : k ∈ c.queue.woken := by
  have here := (history.placed k).mpr waiting
  simpa [Queue.waiting, history.attended.awake shut] using here

/-- A worker that is about to ask is not found at the queue. -/
theorem History.idle_of_asking (history : History n c es) {k : Nat}
    (asking : c.workers[k]? = some .asking) : k ∉ c.queue.asleep ∧ k ∉ c.queue.woken := by
  have absent : k ∉ c.queue.waiting := by simp [history.placed k, asking]
  simpa [Queue.waiting] using absent

end LineService.Crew
