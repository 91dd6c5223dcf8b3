import LineService.Crew.Basic
import LineService.Proofs.Machine.Runs
import LineService.Proofs.Queue.Turns

/-!
# What a step does to a crew

`Turn` says of every step of a crew which crew it needs, which crew it leaves and what has
happened.  Every step is one of the turns (`turn_of_step`), so each participant's steps can be read
off (`of_spawn_ok`, `of_spawn_error`, `of_handOver`, `of_shutdown`).

A crew touches its queue only by the steps of the queue, one at a time and with the same
events, so a run of a crew shows a run of its queue (`History.queue`).  What is known of
queues is thereby known of the queue of a crew.

`History n c es` says that a crew of `n` workers can come to be `c` with `es` behind it,
from the moment before its first worker is started.
-/

set_option autoImplicit false

namespace LineService.Crew

variable {α : Type} {c d : Crew α}

/-- The task that a worker is carrying out. -/
def Worker.task? : Worker α → Option α
  | .busy task => some task
  | _ => none

/-- Worker `k` comes to look at the queue by taking this step. -/
inductive Comes (c : Crew α) : Label α → Nat → Queue.Label α → Prop where
  | ask (k : Nat) (asking : c.workers[k]? = some .asking) : Comes c (.ask k) k (.arrive k)
  | resume (k : Nat) (waiting : c.workers[k]? = some .waiting) :
      Comes c (.resume k) k (.resume k)

/-- A worker that comes to look at the queue is there and has nothing to do. -/
theorem Comes.worker {l : Label α} {k : Nat} {m : Queue.Label α} (comes : Comes c l k m) :
    ∃ v, c.workers[k]? = some v ∧ v ≠ .exited ∧ v.task? = none := by
  cases comes with
  | ask k asking => exact ⟨_, asking, by simp, rfl⟩
  | resume k waiting => exact ⟨_, waiting, by simp, rfl⟩

/-- What a step needs, leaves and comes to. -/
inductive Turn (c : Crew α) : Label α → Crew α → List (Event α) → Prop where
  | spawned (fresh : c.life = .created) (room : c.workers.length < c.size) :
      Turn c (.spawn (.ok ())) { c with workers := c.workers ++ [.asking] }
        [.spawned c.workers.length]
  | spawnFailed (f : Net.Fault) (fresh : c.life = .created)
      (room : c.workers.length < c.size) :
      Turn c (.spawn (.error f))
        { c with
          life := .shuttingDown
          closer := some (.founder c.workers.length f, .closing) }
        [.spawnFailed c.workers.length f, .signalled]
  | handedOver (fresh : c.life = .created) (full : c.workers.length = c.size) :
      Turn c .handOver { c with life := .running, ready := true } [.handedOver c.size]
  | accepted (task : α) (pick : Nat) (q : Queue α) (ready : c.ready = true)
      (opened : c.queue.closed = false)
      (queued : c.queue.step (.enqueue task pick) = some (q, [.accepted task])) :
      Turn c (.submit task pick) { c with queue := q } [.queue (.accepted task)]
  | refused (task : α) (pick : Nat) (ready : c.ready = true) (shut : c.queue.closed = true) :
      Turn c (.submit task pick) c [.queue (.refused task)]
  | signalled (who : Nat) (ready : c.ready = true)
      (early : c.life = .created ∨ c.life = .running) :
      Turn c (.shutdown who)
        { c with life := .shuttingDown, closer := some (.caller who, .closing) } [.signalled]
  | returned (who : Nat) (late : c.life = .shuttingDown ∨ c.life = .terminated) :
      Turn c (.shutdown who) c [.returned (.caller who)]
  | closed (who : Closer) (stage : c.closer = some (who, .closing)) :
      Turn c .advance { c with queue := c.queue.close.2, closer := some (who, .joining 0) }
        [.queue (.closed c.queue.close.1)]
  | joined (who : Closer) (k : Nat) (stage : c.closer = some (who, .joining k))
      (gone : c.workers[k]? = some .exited) :
      Turn c .advance { c with closer := some (who, .joining (k + 1)) } [.joined k]
  | joinedAll (who : Closer) (k : Nat) (stage : c.closer = some (who, .joining k))
      (nobody : c.workers[k]? = none) :
      Turn c .advance { c with closer := some (who, .draining) } []
  | drained (who : Closer) (stage : c.closer = some (who, .draining)) :
      Turn c .advance { c with queue := c.queue.drain.2, closer := some (who, .ending) }
        [.queue (.drained c.queue.tasks)]
  | ended (who : Closer) (stage : c.closer = some (who, .ending)) :
      Turn c .advance { c with life := .terminated, closer := none } [.stopped, .returned who]
  | slept {l : Label α} {k : Nat} {m : Queue.Label α} (q : Queue α) (comes : Comes c l k m)
      (looked : c.queue.step m = some (q, [.slept k])) :
      Turn c l { c with queue := q, workers := c.workers.set k .waiting } [.queue (.slept k)]
  | handed {l : Label α} {k : Nat} {m : Queue.Label α} (a : α) (q : Queue α)
      (comes : Comes c l k m) (looked : c.queue.step m = some (q, [.handed k a])) :
      Turn c l { c with queue := q, workers := c.workers.set k (.busy a) }
        [.queue (.handed k a)]
  | dismissed {l : Label α} {k : Nat} {m : Queue.Label α} (q : Queue α)
      (comes : Comes c l k m) (looked : c.queue.step m = some (q, [.dismissed k])) :
      Turn c l { c with queue := q, workers := c.workers.set k .exited }
        [.queue (.dismissed k)]
  | stirred (k : Nat) (q : Queue α) (waiting : c.workers[k]? = some .waiting)
      (woke : c.queue.step (.stir k) = some (q, [.stirred k])) :
      Turn c (.stir k) { c with queue := q, workers := c.workers.set k .waiting }
        [.queue (.stirred k)]
  | finished (k : Nat) (task : α) (outcome : Outcome)
      (busy : c.workers[k]? = some (.busy task)) :
      Turn c (.finish k outcome) { c with workers := c.workers.set k .asking }
        [.finished k task outcome]

/-- A worker that has just been started asks, and the others are what they were. -/
theorem getElem?_concat_asking {workers : List (Worker α)} {k : Nat} {w : Worker α}
    (other : w ≠ .asking) : (workers ++ [.asking])[k]? = some w ↔ workers[k]? = some w := by
  rcases Nat.lt_or_ge k workers.length with less | more
  · rw [List.getElem?_append_left less]
  · rw [List.getElem?_append_right more, List.getElem?_eq_none more, List.getElem?_singleton]
    split <;> simp [Ne.symm other]

/-! ## Every step is a turn -/

theorem turn_of_submit {task : α} {pick : Nat} {es : List (Event α)}
    (taken : c.step (.submit task pick) = some (d, es)) : Turn c (.submit task pick) d es := by
  simp only [step] at taken
  split at taken
  · rename_i ready
    cases shut : c.queue.closed with
    | true =>
        rw [Queue.enqueue_of_closed task pick shut] at taken
        cases taken
        exact .refused task pick ready shut
    | false =>
        rw [Queue.enqueue_of_open task pick shut] at taken
        cases taken
        refine .accepted task pick _ ready shut ?_
        simp only [Queue.step, Queue.enqueue_of_open task pick shut]
  · cases taken

theorem turn_of_shutdown {who : Nat} {es : List (Event α)}
    (taken : c.step (.shutdown who) = some (d, es)) : Turn c (.shutdown who) d es := by
  simp only [step] at taken
  split at taken
  · rename_i known
    split at taken
    · rename_i late
      cases taken
      exact .returned who (.inl late)
    · rename_i late
      cases taken
      exact .returned who (.inr late)
    · rename_i early
      cases taken
      exact .signalled who (by simpa [early] using known) (.inl early)
    · rename_i early
      cases taken
      exact .signalled who (by simpa [early] using known) (.inr early)
  · cases taken

theorem turn_of_advance {es : List (Event α)} (taken : c.step .advance = some (d, es)) :
    Turn c .advance d es := by
  simp only [step, advance] at taken
  split at taken
  · cases taken
  · rename_i who stage
    cases taken
    exact .closed who stage
  · rename_i who k stage
    split at taken
    · rename_i nobody
      cases taken
      exact .joinedAll who k stage nobody
    · rename_i gone
      cases taken
      exact .joined who k stage gone
    · cases taken
  · rename_i who stage
    cases taken
    exact .drained who stage
  · rename_i who stage
    cases taken
    exact .ended who stage

/-- A worker at the queue takes a step of the queue, and becomes what it comes away as. -/
theorem atQueue_eq_some {k : Nat} {m : Queue.Label α} {es : List (Event α)}
    (taken : c.atQueue k m = some (d, es)) :
    ∃ q fs, c.queue.step m = some (q, fs) ∧ es = fs.map .queue ∧
      d = { c with
        queue := q
        workers := c.workers.set k (match fs with
          | [.handed _ a] => .busy a
          | [.dismissed _] => .exited
          | _ => .waiting) } := by
  simp only [atQueue] at taken
  split at taken
  · cases taken
  · rename_i q fs queued
    cases taken
    exact ⟨q, fs, queued, rfl, rfl⟩

theorem turn_of_comes {l : Label α} {k : Nat} {m : Queue.Label α} {es : List (Event α)}
    (comes : Comes c l k m) (taken : c.atQueue k m = some (d, es)) : Turn c l d es := by
  obtain ⟨q, fs, queued, rfl, rfl⟩ := atQueue_eq_some taken
  -- The consumer that the queue tells of is the worker that has come.
  have same : ∀ {j : Nat}, Queue.Forward c.queue m j → j = k := by
    intro j forward
    cases comes <;> cases forward <;> rfl
  cases Queue.turn_of_step queued with
  | slept forward opened nothing =>
      cases same forward
      exact .slept _ comes queued
  | handed a rest forward opened first =>
      cases same forward
      exact .handed a _ comes queued
  | dismissed forward shut =>
      cases same forward
      exact .dismissed _ comes queued
  | _ => cases comes

theorem turn_of_stir {k : Nat} {es : List (Event α)} (waiting : c.workers[k]? = some .waiting)
    (taken : c.atQueue k (.stir k) = some (d, es)) : Turn c (.stir k) d es := by
  obtain ⟨q, fs, queued, rfl, rfl⟩ := atQueue_eq_some taken
  cases Queue.turn_of_step queued with
  | stirred _ sleeps => exact .stirred k _ waiting queued
  | slept forward => cases forward
  | handed a rest forward => cases forward
  | dismissed forward => cases forward

/-- **Every step is one of the turns.** -/
theorem turn_of_step {l : Label α} {es : List (Event α)}
    (taken : c.step l = some (d, es)) : Turn c l d es := by
  cases l with
  | spawn result =>
      simp only [step] at taken
      split at taken
      · rename_i allowed
        cases result with
        | ok =>
            cases taken
            exact .spawned allowed.1 allowed.2
        | error f =>
            cases taken
            exact .spawnFailed f allowed.1 allowed.2
      · cases taken
  | handOver =>
      simp only [step] at taken
      split at taken
      · rename_i allowed
        cases taken
        exact .handedOver allowed.1 allowed.2
      · cases taken
  | submit task pick => exact turn_of_submit taken
  | shutdown who => exact turn_of_shutdown taken
  | advance => exact turn_of_advance taken
  | ask k =>
      simp only [step] at taken
      split at taken
      · rename_i asking
        exact turn_of_comes (.ask k asking) taken
      · cases taken
  | resume k =>
      simp only [step] at taken
      split at taken
      · rename_i waiting
        exact turn_of_comes (.resume k waiting) taken
      · cases taken
  | stir k =>
      simp only [step] at taken
      split at taken
      · rename_i waiting
        exact turn_of_stir waiting taken
      · cases taken
  | finish k outcome =>
      simp only [step] at taken
      split at taken
      · rename_i task busy
        cases taken
        exact .finished k task outcome busy
      · cases taken

/-! ## What the founder and those who call for a shutdown do -/

/-- What starting a worker comes to. -/
theorem of_spawn_ok {es : List (Event α)} (taken : c.step (.spawn (.ok ())) = some (d, es)) :
    c.workers.length < c.size ∧ d = { c with workers := c.workers ++ [.asking] } ∧
      es = [.spawned c.workers.length] := by
  cases turn_of_step taken with
  | spawned _ room => exact ⟨room, rfl, rfl⟩
  | slept _ comes | handed _ _ comes | dismissed _ comes => cases comes

/-- What failing to start one comes to. -/
theorem of_spawn_error {f : Net.Fault} {es : List (Event α)}
    (taken : c.step (.spawn (.error f)) = some (d, es)) :
    c.life = .created ∧ c.workers.length < c.size ∧
      d = { c with
        life := .shuttingDown
        closer := some (.founder c.workers.length f, .closing) } ∧
      es = [.spawnFailed c.workers.length f, .signalled] := by
  cases turn_of_step taken with
  | spawnFailed _ fresh room => exact ⟨fresh, room, rfl, rfl⟩
  | slept _ comes | handed _ _ comes | dismissed _ comes => cases comes

/-- What handing a crew over comes to. -/
theorem of_handOver {es : List (Event α)} (taken : c.step .handOver = some (d, es)) :
    c.workers.length = c.size ∧ d = { c with life := .running, ready := true } ∧
      es = [.handedOver c.size] := by
  cases turn_of_step taken with
  | handedOver _ full => exact ⟨full, rfl, rfl⟩
  | slept _ comes | handed _ _ comes | dismissed _ comes => cases comes

/-- What calling for a shutdown comes to, before one has begun and after. -/
theorem of_shutdown {who : Nat} {es : List (Event α)}
    (taken : c.step (.shutdown who) = some (d, es)) :
    (c.ready = true ∧ (c.life = .created ∨ c.life = .running) ∧
        d = { c with life := .shuttingDown, closer := some (.caller who, .closing) } ∧
        es = [.signalled]) ∨
      (c.life = .shuttingDown ∨ c.life = .terminated) ∧ d = c ∧ es = [.returned (.caller who)] := by
  cases turn_of_step taken with
  | signalled _ ready early => exact .inl ⟨ready, early, rfl, rfl⟩
  | returned _ late => exact .inr ⟨late, rfl, rfl⟩
  | slept _ comes | handed _ _ comes | dismissed _ comes => cases comes

/-! ## The queue of a crew -/

/-- What an event is to the queue. -/
def Event.queue? : Event α → Option (Queue.Event α)
  | .queue e => some e
  | _ => none

/-- What has happened at the queue. -/
def atQueueEvents (es : List (Event α)) : List (Queue.Event α) := es.filterMap Event.queue?

@[simp] theorem atQueueEvents_append (es fs : List (Event α)) :
    atQueueEvents (es ++ fs) = atQueueEvents es ++ atQueueEvents fs :=
  List.filterMap_append

/-- A step of a crew is a step of its queue or leaves the queue alone. -/
theorem Turn.queue {l : Label α} {es : List (Event α)} (turn : Turn c l d es) :
    (d.queue = c.queue ∧ atQueueEvents es = []) ∨
      ∃ m, c.queue.step m = some (d.queue, atQueueEvents es) := by
  cases turn with
  | accepted task pick q ready opened queued => exact .inr ⟨_, queued⟩
  | refused task pick ready shut =>
      refine .inr ⟨.enqueue task pick, ?_⟩
      simp only [Queue.step, Queue.enqueue_of_closed task pick shut]
      rfl
  | closed => exact .inr ⟨.close, rfl⟩
  | drained => exact .inr ⟨.drain, rfl⟩
  | slept q comes looked => exact .inr ⟨_, looked⟩
  | handed a q comes looked => exact .inr ⟨_, looked⟩
  | dismissed q comes looked => exact .inr ⟨_, looked⟩
  | stirred k q waiting woke => exact .inr ⟨_, woke⟩
  | _ => exact .inl ⟨rfl, rfl⟩

/-! ## Histories -/

/-- A crew of `n` workers can come to be `c`, and `es` is what has happened on the way. -/
def History (n : Nat) (c : Crew α) (es : List (Event α)) : Prop :=
  ∃ c₀ : Crew α, Crew.new n = .ok c₀ ∧ Machine.Reaches step c₀ c es

/-- A crew none of whose workers has been started. -/
theorem new_eq_ok {n : Nat} {c₀ : Crew α} (founded : Crew.new n = .ok c₀) :
    0 < n ∧ c₀ = ⟨n, .created, false, .empty, [], none⟩ := by
  simp only [Crew.new] at founded
  split at founded
  · cases founded
  · rename_i nonzero
    cases founded
    exact ⟨Nat.pos_of_ne_zero nonzero, rfl⟩

namespace History

variable {n : Nat} {es : List (Event α)}

/-- What holds before the first worker is started and is kept by every turn holds
always. -/
theorem induct {motive : (c : Crew α) → (es : List (Event α)) → History n c es → Prop}
    (start : ∀ history, motive ⟨n, .created, false, .empty, [], none⟩ [] history)
    (next : ∀ {c d : Crew α} {es fs : List (Event α)} {l : Label α}
      (before : History n c es), Turn c l d fs → ∀ history : History n d (es ++ fs),
      motive c es before → motive d (es ++ fs) history)
    {c : Crew α} {es : List (Event α)} (history : History n c es) : motive c es history := by
  obtain ⟨c₀, founded, reached⟩ := history
  induction reached with
  | refl =>
      obtain ⟨-, rfl⟩ := new_eq_ok founded
      exact start _
  | tail reached taken ih => exact next ⟨c₀, founded, reached⟩ (turn_of_step taken) _ ih

theorem trans {fs : List (Event α)} (history : History n c es)
    (reached : Machine.Reaches step c d fs) : History n d (es ++ fs) := by
  obtain ⟨c₀, founded, before⟩ := history
  exact ⟨c₀, founded, before.trans reached⟩

/-- **The queue runs when the crew does.** -/
theorem queue (history : History n c es) :
    Machine.Reaches Queue.step .empty c.queue (atQueueEvents es) := by
  obtain ⟨c₀, founded, reached⟩ := history
  obtain ⟨-, rfl⟩ := new_eq_ok founded
  refine Machine.Reaches.project Crew.queue Event.queue? (fun taken => ?_) reached
  change Machine.Reaches Queue.step _ _ (atQueueEvents _)
  rcases (turn_of_step taken).queue with ⟨same, silent⟩ | ⟨m, queued⟩
  · rw [same, silent]
    exact .refl
  · exact Machine.Reaches.single queued

/-- No more workers are started than are wanted. -/
theorem length_le (history : History n c es) : c.size = n ∧ c.workers.length ≤ n := by
  induction history using History.induct with
  | start => exact ⟨rfl, Nat.zero_le n⟩
  | next _ turn _ ih =>
      obtain ⟨rfl, le⟩ := ih
      cases turn with
      | spawned fresh room => exact ⟨rfl, by simpa [Nat.succ_le_iff] using room⟩
      | slept | handed | dismissed | stirred | finished => exact ⟨rfl, by simpa using le⟩
      | _ => exact ⟨rfl, le⟩

end History

end LineService.Crew
