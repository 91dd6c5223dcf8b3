import Mathlib.Algebra.GroupWithZero.Nat
import Mathlib.Data.List.Perm.Subperm
import LineService.Proofs.Crew.Founding
import LineService.Proofs.Crew.Griefs

/-!
# Crews that have been given nothing to do

A crew that has never been given a task has no worker that is busy with one (`History.unused`), so
nobody can keep whoever shuts it down waiting.  `ahead` counts the steps that its workers and the
closing call still have to take.  Each such step lowers it (`History.ahead_lt`), and only a sleeper
that wakes for no reason has one more to take (`ahead_of_stir`).

While the crew is being shut down one of these steps can be taken (`History.windsDown`).  So a crew
that is left to itself then comes to be terminated (`History.settle_terminated`), and a terminated
crew has been wound up: the workers that were started, and they alone, have gone and were waited
for, each once and in turn (`History.woundUp`).
-/

set_option autoImplicit false

namespace LineService.Crew

variable {α : Type} {c d : Crew α} {n : Nat} {l : Label α} {es fs : List (Event α)}

/-! ## No task, nobody busy -/

/-- A crew that has never been given a task holds none, and nobody carries one out. -/
structure Unused (c : Crew α) (es : List (Event α)) : Prop where
  nothing : c.queue.tasks = []
  idle : ∀ (k : Nat) (task : α), c.workers[k]? ≠ some (.busy task)
  released : released es = []

theorem History.unused (history : History n c es) (untasked : accepted es = []) : Unused c es := by
  have all := history.accepted_eq
  rw [untasked, eq_comm, List.append_eq_nil_iff, List.append_eq_nil_iff] at all
  obtain ⟨⟨handedOut, released⟩, nothing⟩ := all
  refine ⟨nothing, fun k task busy => ?_, released⟩
  have handed := history.perm_handedOut
  rw [handedOut] at handed
  have held : task ∈ inHand c := List.mem_filterMap.mpr ⟨_, List.mem_of_getElem? busy, rfl⟩
  exact absurd (handed.mem_iff.mpr (List.mem_append_right _ held)) List.not_mem_nil

/-! ## Steps ahead -/

/-- The steps that a worker takes until it has gone, if nobody is given a task. -/
def Worker.ahead : Worker α → Nat
  | .asking | .busy _ => 2
  | .waiting => 1
  | .exited => 0

/-- The steps that the closing call takes until a crew with `size` workers is terminated. -/
def Closing.ahead (size : Nat) : Closing → Nat
  | .closing => size + 4
  | .joining k => size - k + 3
  | .draining => 2
  | .ending => 1

/-- The steps of the workers, and of those that have been woken and will fall asleep again. -/
def workersAhead (c : Crew α) : Nat :=
  (c.workers.map Worker.ahead).sum + if c.queue.closed then 0 else c.queue.woken.length

/-- The steps of the closing call. -/
def closingAhead (c : Crew α) : Nat :=
  match c.closer with
  | none => 0
  | some (_, stage) => stage.ahead c.workers.length

/-- The steps that a crew still takes if nobody is given a task. -/
def ahead (c : Crew α) : Nat := c.workersAhead + c.closingAhead

/-- A worker that becomes another changes the sum by the difference of the two. -/
theorem sum_ahead_set {workers : List (Worker α)} {k : Nat} {v : Worker α} (w : Worker α)
    (here : workers[k]? = some v) :
    ((workers.set k w).map Worker.ahead).sum + v.ahead =
      (workers.map Worker.ahead).sum + w.ahead := by
  induction workers generalizing k with
  | nil => cases here
  | cons u us ih =>
      cases k with
      | zero =>
          cases here
          simp only [List.set_cons_zero, List.map_cons, List.sum_cons]
          omega
      | succ k =>
          have rest := ih (k := k) here
          simp only [List.set_cons_succ, List.map_cons, List.sum_cons]
          omega

/-- What the consumers that have been woken amount to when a worker falls asleep. -/
theorem woken_of_slept {k : Nat} {m : Queue.Label α} {q : Queue α} (comes : Comes c l k m)
    (looked : c.queue.step m = some (q, [.slept k])) :
    c.queue.closed = false ∧ q.closed = false ∧ ∃ v, c.workers[k]? = some v ∧
      Worker.ahead v + c.queue.woken.length = 2 + q.woken.length := by
  cases Queue.turn_of_step looked with
  | slept forward opened nothing =>
      refine ⟨opened, opened, ?_⟩
      cases comes with
      | ask _ asking =>
          cases forward with
          | arrive _ idle =>
              exact ⟨_, asking, by rw [List.erase_of_not_mem idle.2]; rfl⟩
      | resume _ waiting =>
          cases forward with
          | resume _ called =>
              have called_pos := List.length_pos_of_mem called
              refine ⟨_, waiting, ?_⟩
              rw [List.length_erase_of_mem called]
              simp only [Worker.ahead]
              omega

/-- A worker at the queue comes nearer to its end, if there is no task. -/
theorem workersAhead_of_comes {k : Nat} {m : Queue.Label α} (comes : Comes c l k m)
    (turn : Turn c l d fs) (nothing : c.queue.tasks = []) : d.workersAhead < c.workersAhead := by
  cases turn with
  | slept q comes looked =>
      obtain ⟨opened, still, v, here, count⟩ := woken_of_slept comes looked
      have sum := sum_ahead_set .waiting here
      simp only [workersAhead, opened, still, Bool.false_eq_true, if_false]
      simp only [Worker.ahead] at sum count ⊢
      omega
  | dismissed q comes looked =>
      have shut : c.queue.closed = true ∧ q.closed = true := by
        cases Queue.turn_of_step looked with
        | dismissed _ shut => exact ⟨shut, shut⟩
      simp only [workersAhead, shut.1, shut.2, if_true]
      cases comes with
      | ask _ asking =>
          have sum := sum_ahead_set .exited asking
          simp only [Worker.ahead] at sum ⊢
          omega
      | resume _ waiting =>
          have sum := sum_ahead_set .exited waiting
          simp only [Worker.ahead] at sum ⊢
          omega
  | handed a q comes looked =>
      cases Queue.turn_of_step looked with
      | handed _ rest _ _ first => exact absurd (nothing.symm.trans first) (by simp)
  | _ => cases comes

theorem ahead_of_comes {k : Nat} {m : Queue.Label α} (comes : Comes c l k m)
    (turn : Turn c l d fs) (nothing : c.queue.tasks = []) : d.ahead < c.ahead := by
  have less := workersAhead_of_comes comes turn nothing
  have same : d.closingAhead = c.closingAhead := by
    cases turn with
    | slept | handed | dismissed => simp only [closingAhead, List.length_set]
    | _ => cases comes
  rw [ahead, ahead, same]
  omega

/-- So it does by each of the two steps by which it comes to look. -/
theorem ahead_of_visit (turn : Turn c l d fs) (visit : ∃ k, l = .ask k ∨ l = .resume k)
    (nothing : c.queue.tasks = []) : d.ahead < c.ahead := by
  obtain ⟨k, m, comes⟩ : ∃ k m, Comes c l k m := by
    obtain ⟨k, rfl | rfl⟩ := visit <;> cases turn with
    | slept _ comes | handed _ _ comes | dismissed _ comes => exact ⟨_, _, comes⟩
  exact ahead_of_comes comes turn nothing

/-- The closing call comes nearer to its end. -/
theorem ahead_of_advance (turn : Turn c .advance d fs) : d.ahead < c.ahead := by
  cases turn with
  | closed who stage =>
      have fewer : ({ c with queue := c.queue.close.2, closer := some (who, .joining 0) } :
          Crew α).workersAhead ≤ c.workersAhead := by
        cases queue : c.queue.closed with
        | true => simp [workersAhead, Queue.close_of_closed queue]
        | false => simp [workersAhead, Queue.close_of_open queue, queue]
      simp only [ahead, closingAhead, stage, Closing.ahead]
      omega
  | joined who k stage gone =>
      have less := (List.getElem?_eq_some_iff.mp gone).1
      simp only [ahead, workersAhead, closingAhead, stage, Closing.ahead]
      omega
  | joinedAll who k stage nobody =>
      have more := List.getElem?_eq_none_iff.mp nobody
      simp only [ahead, workersAhead, closingAhead, stage, Closing.ahead]
      omega
  | drained who stage =>
      have same : ({ c with queue := c.queue.drain.2, closer := some (who, .ending) } :
          Crew α).workersAhead = c.workersAhead := rfl
      simp only [ahead, closingAhead, stage, same, Closing.ahead]
      omega
  | ended who stage =>
      simp only [ahead, workersAhead, closingAhead, stage, Closing.ahead]
      omega
  | slept _ comes | handed _ _ comes | dismissed _ comes => cases comes

/-- A sleeper that wakes for no reason will fall asleep again. -/
theorem ahead_of_stir {k : Nat} (turn : Turn c (.stir k) d fs) : d.ahead ≤ c.ahead + 1 := by
  cases turn with
  | stirred _ q waiting woke =>
      have sum := sum_ahead_set .waiting waiting
      cases Queue.turn_of_step woke with
      | stirred _ sleeps =>
          simp only [ahead, workersAhead, closingAhead, List.length_set, List.length_append,
            List.length_singleton]
          split <;> omega
  | slept _ comes | handed _ _ comes | dismissed _ comes => cases comes

/-- A worker that has just been started asks and goes, if there is nothing to do. -/
theorem ahead_asking (nobody : c.closer = none) :
    ({ c with workers := c.workers ++ [.asking] } : Crew α).ahead = c.ahead + 2 := by
  simp only [ahead, workersAhead, closingAhead, nobody, List.map_append, List.sum_append,
    List.map_singleton, List.sum_singleton, Worker.ahead]
  omega

/-- Whoever begins to shut a crew down has four steps to take, and one for each worker. -/
theorem ahead_signalled (nobody : c.closer = none) (who : Closer) :
    ({ c with life := .shuttingDown, closer := some (who, .closing) } : Crew α).ahead =
      c.ahead + (c.workers.length + 4) := by
  simp only [ahead, workersAhead, closingAhead, nobody, Closing.ahead]
  omega

/-- Every worker that has been woken is counted among the workers. -/
theorem History.woken_length_le (history : History n c es) :
    c.queue.woken.length ≤ c.workers.length := by
  have distinct := (List.nodup_append.mp history.attended.distinct).2.1
  have there : c.queue.woken ⊆ List.range c.workers.length := by
    intro k woken
    have waiting := (history.placed k).mp (List.mem_append_right _ woken)
    exact List.mem_range.mpr (List.getElem?_eq_some_iff.mp waiting).1
  simpa using (List.subperm_of_subset distinct there).length_le

/-- **There are not more steps ahead than a crew is given time for.** -/
theorem History.ahead_le (history : History n c es) : c.ahead ≤ c.stepBound := by
  have woken := history.woken_length_le
  have workers : (c.workers.map Worker.ahead).sum ≤ 2 * c.workers.length := by
    induction c.workers with
    | nil => rfl
    | cons w ws ih =>
        have one : w.ahead ≤ 2 := by cases w <;> simp [Worker.ahead]
        rw [List.map_cons, List.sum_cons, List.length_cons]
        omega
  have closing : c.closingAhead ≤ c.workers.length + 4 := by
    unfold closingAhead
    split
    · omega
    · rename_i stage _
      cases stage <;> simp only [Closing.ahead] <;> omega
  rw [ahead, workersAhead, stepBound]
  split <;> omega

/-! ## Winding down -/

/-- **A shutdown goes on.**  Where no worker has anything to do, the closing call can go on, or the
queue is closed and the worker it waits for can go home. -/
theorem History.windsDown (history : History n c es) (untasked : accepted es = [])
    (closing : c.life = .shuttingDown) : (∃ d fs, c.step .advance = some (d, fs)) ∨
      c.queue.closed = true ∧ ∃ k d, c.step (.ask k) = some (d, [.queue (.dismissed k)]) ∨
        c.step (.resume k) = some (d, [.queue (.dismissed k)]) := by
  cases queue : c.queue.closed with
  | false =>
      rcases history.standing.of_open queue with ⟨-, early⟩ | ⟨-, -, who, stage⟩
      · simp [closing] at early
      · exact .inl (by simp [step, advance, stage])
  | true =>
      rcases history.goesOn queue (by simp [closing]) (history.unused untasked).idle with on | home
      · exact .inl on
      · exact .inr ⟨rfl, home⟩

/-- A step that a crew takes by itself can be taken, and lowers the number of those ahead. -/
theorem History.ahead_lt (history : History n c es) (untasked : accepted es = [])
    (chosen : c.nextTurn = some l) :
    ∃ d fs, c.step l = some (d, fs) ∧ accepted fs = [] ∧ d.ahead < c.ahead := by
  simp only [nextTurn] at chosen
  split at chosen
  · rename_i k asks
    cases chosen
    obtain ⟨less, here, -⟩ := List.findIdx?_eq_some_iff_getElem.mp asks
    have asking : c.workers[k]? = some .asking := by
      rw [List.getElem?_eq_getElem less]
      cases worker : c.workers[k] <;> simp_all
    obtain ⟨asleep, woken⟩ := history.idle_of_asking asking
    obtain ⟨r, taken⟩ : ∃ r, c.step (.ask k) = some r := by
      simp [step, asking, atQueue, Queue.step, asleep, woken]
    have turn := turn_of_step taken
    exact ⟨r.1, r.2, taken, accepted_of_turn turn (by simp),
      ahead_of_comes (.ask k asking) turn (history.unused untasked).nothing⟩
  · split at chosen
    · rename_i k rest first
      cases chosen
      have woken : k ∈ c.queue.woken := first ▸ List.mem_cons_self
      have waiting := (history.placed k).mp (List.mem_append_right _ woken)
      obtain ⟨r, taken⟩ : ∃ r, c.step (.resume k) = some r := by
        simp [step, waiting, atQueue, Queue.step, woken]
      have turn := turn_of_step taken
      exact ⟨r.1, r.2, taken, accepted_of_turn turn (by simp),
        ahead_of_comes (.resume k waiting) turn (history.unused untasked).nothing⟩
    · split at chosen
      · rename_i enabled
        cases chosen
        obtain ⟨r, taken⟩ := Option.isSome_iff_exists.mp enabled
        have turn := turn_of_step (l := .advance) taken
        exact ⟨r.1, r.2, taken, accepted_of_turn turn (by simp), ahead_of_advance turn⟩
      · cases chosen

/-- A crew has a step to take by itself while it is being shut down. -/
theorem History.nextTurn_ne_none (history : History n c es) (untasked : accepted es = [])
    (closing : c.life = .shuttingDown) : c.nextTurn ≠ .none := by
  intro rests
  simp only [nextTurn] at rests
  split at rests
  · cases rests
  · rename_i nobody
    split at rests
    · cases rests
    · rename_i asleep
      split at rests
      · cases rests
      · rename_i stuck
        rcases history.windsDown untasked closing with ⟨d, fs, taken⟩ | ⟨-, k, d, taken | taken⟩
        · exact stuck (by rw [show c.advance = _ from taken]; rfl)
        · cases turn_of_step taken with
          | dismissed q comes =>
              cases comes with
              | ask _ asking =>
                  have all := List.findIdx?_eq_none_iff.mp nobody
                  exact absurd (all _ (List.mem_of_getElem? asking)) (by simp)
        · cases turn_of_step taken with
          | dismissed q comes looked =>
              cases comes with
              | resume =>
                  cases Queue.turn_of_step looked with
                  | dismissed forward =>
                      cases forward with
                      | resume _ called => simp [asleep] at called

/-! ## Left to itself -/

/-- The steps that a crew takes by itself. -/
theorem nextTurn_cases (chosen : c.nextTurn = some l) :
    (∃ k, l = .ask k ∨ l = .resume k) ∨ l = .advance := by
  simp only [nextTurn] at chosen
  split at chosen
  · cases chosen
    exact .inl ⟨_, .inl rfl⟩
  · split at chosen
    · cases chosen
      exact .inl ⟨_, .inr rfl⟩
    · split at chosen <;> cases chosen
      exact .inr rfl

/-- A crew gives itself no task. -/
theorem not_submit_of_nextTurn (chosen : c.nextTurn = some l) (a : α) (pick : Nat) :
    l ≠ .submit a pick := by
  rcases nextTurn_cases chosen with ⟨k, rfl | rfl⟩ | rfl <;> simp

theorem accepted_settle (c : Crew α) : accepted c.settle.2 = [] :=
  Machine.settle_induct step nextTurn c.stepBound (motive := fun _ es => accepted es = []) rfl
    fun chosen taken nothing => by
      rw [accepted_append, nothing,
        accepted_of_turn (turn_of_step taken) (not_submit_of_nextTurn chosen)]
      rfl

/-- **Left to itself, a crew that has never been given a task comes to rest.** -/
theorem History.settle_rests (history : History n c es) (untasked : accepted es = []) :
    c.settle.1.nextTurn = .none :=
  Machine.settle_rests step nextTurn ahead (fun d => ∃ gs, History n d gs ∧ accepted gs = [])
    (fun {d l} ⟨gs, before, nothing⟩ chosen => by
      obtain ⟨e, fs, taken, silent, less⟩ := before.ahead_lt nothing chosen
      refine ⟨e, fs, taken, ⟨gs ++ fs, before.trans (.single taken), ?_⟩, less⟩
      rw [accepted_append, nothing, silent]
      rfl)
    c.stepBound ⟨es, history, untasked⟩ history.ahead_le

/-- Only a crew that is being shut down goes on with that. -/
theorem Standing.closing_of_advance (standing : Standing c es)
    (taken : c.step .advance = some (d, fs)) : c.life = .shuttingDown := by
  cases standing with
  | founding _ nobody | running _ nobody | ended _ _ nobody => simp [step, advance, nobody] at taken
  | _ => assumption

/-- A crew that is being shut down stays so until it is terminated. -/
theorem late_of_turn (turn : Turn c l d fs)
    (late : c.life = .shuttingDown ∨ c.life = .terminated) :
    d.life = .shuttingDown ∨ d.life = .terminated := by
  cases turn with
  | spawned fresh | spawnFailed _ fresh | handedOver fresh => simp [fresh] at late
  | signalled _ _ early => rcases early with early | early <;> simp [early] at late
  | ended => exact .inr rfl
  | _ => exact late

theorem late_of_reaches (reached : Machine.Reaches step c d fs)
    (late : c.life = .shuttingDown ∨ c.life = .terminated) :
    d.life = .shuttingDown ∨ d.life = .terminated := by
  induction reached with
  | refl => exact late
  | tail _ taken ih => exact late_of_turn (turn_of_step taken) ih

/-- **A crew that is being shut down and left to itself comes to be terminated**, if it has never
been given a task. -/
theorem History.settle_terminated (history : History n c es) (untasked : accepted es = [])
    (closing : c.life = .shuttingDown) : c.settle.1.life = .terminated := by
  have reached : Machine.Reaches step c c.settle.1 c.settle.2 := by
    simpa [Crew.settle] using
      Machine.reaches_settle step nextTurn c.stepBound (.refl (s := c))
  refine (late_of_reaches reached (.inl closing)).resolve_left fun still => ?_
  have later : accepted (es ++ c.settle.2) = [] := by
    rw [accepted_append, untasked, accepted_settle]
    rfl
  exact (history.trans reached).nextTurn_ne_none later still (history.settle_rests untasked)

/-! ## Workers that were started and waited for -/

def Event.spawned? : Event α → Option Nat
  | .spawned k => some k
  | _ => none

def Event.attempt? : Event α → Option Nat
  | .spawned k | .spawnFailed k _ => some k
  | _ => none

def Event.joined? : Event α → Option Nat
  | .joined k => some k
  | _ => none

/-- The workers that were started, in the order in which they were. -/
def spawned (es : List (Event α)) : List Nat := es.filterMap Event.spawned?

/-- The workers that were to be started, in the order in which that was attempted. -/
def attempts (es : List (Event α)) : List Nat := es.filterMap Event.attempt?

/-- The workers that were waited for, in the order in which they were. -/
def joined (es : List (Event α)) : List Nat := es.filterMap Event.joined?

@[simp] theorem spawned_append (es fs : List (Event α)) :
    spawned (es ++ fs) = spawned es ++ spawned fs := List.filterMap_append

@[simp] theorem attempts_append (es fs : List (Event α)) :
    attempts (es ++ fs) = attempts es ++ attempts fs := List.filterMap_append

@[simp] theorem joined_append (es fs : List (Event α)) :
    joined (es ++ fs) = joined es ++ joined fs := List.filterMap_append

/-- Workers are started in the order of their places. -/
theorem History.spawned_eq (history : History n c es) :
    spawned es = List.range c.workers.length := by
  induction history using History.induct with
  | start => rfl
  | next _ turn _ ih =>
      rw [spawned_append, ih]
      cases turn with
      | spawned => simp [spawned, Event.spawned?, List.range_succ]
      | slept | handed | dismissed | stirred | finished => simp [spawned, Event.spawned?]
      | _ => exact List.append_nil _

/-- Only the founder starts workers. -/
theorem attempts_of_turn (turn : Turn c l d fs) (other : ∀ result, l ≠ .spawn result) :
    attempts fs = [] ∧ d.workers.length = c.workers.length := by
  cases turn with
  | spawned => exact absurd rfl (other _)
  | spawnFailed => exact absurd rfl (other _)
  | slept | handed | dismissed | stirred | finished => exact ⟨rfl, List.length_set⟩
  | _ => exact ⟨rfl, rfl⟩

/-- A worker at the queue leaves alone how many there are and how far the crew has come. -/
theorem kept_of_queueing (turn : Turn c l d fs) (queueing : ∃ k, l = .ask k ∨ l = .resume k ∨
    l = .stir k) : d.life = c.life ∧ d.workers.length = c.workers.length ∧ attempts fs = [] := by
  have other : ∀ result, l ≠ .spawn result := by
    obtain ⟨k, rfl | rfl | rfl⟩ := queueing <;> simp
  obtain ⟨nobody, length⟩ := attempts_of_turn turn other
  exact ⟨(life_of_task turn (of_queueing queueing).1).1, length, nobody⟩

/-- Waiting for a worker is a part of the shutdown. -/
theorem joined_performed (es : List (Event α)) : joined (performed es) = joined es := by
  induction es with
  | nil => rfl
  | cons e es ih =>
      cases e with
      | queue e => cases e <;> exact ih
      | joined k => exact congrArg (k :: ·) ih
      | _ => exact ih

theorem joined_closingScript (k : Nat) (as : List α) :
    joined (closingScript k as) = List.range k := by
  have middle : joined ((List.range k).map .joined : List (Event α)) = List.range k := by
    simp [joined, List.filterMap_map, Function.comp_def, Event.joined?]
  rw [closingScript, joinedScript, joined_append, joined_append, middle]
  exact List.append_nil (List.range k)

theorem released_closingScript (k : Nat) (as : List α) : released (closingScript k as) = as := by
  have silent : released ((List.range k).map .joined : List (Event α)) = [] := by
    rw [released, atQueueEvents, List.filterMap_map]
    exact congrArg Queue.drained (List.filterMap_eq_nil_iff.mpr fun _ _ => rfl)
  rw [closingScript, joinedScript, released_append, released_append, silent]
  exact List.append_nil as

/-! ## The two ends of founding a crew -/

/-- A crew that can be used, with all its `n` workers there. -/
structure Manned (n : Nat) (c : Crew α) (es : List (Event α)) : Prop where
  running : c.life = .running
  ready : c.ready = true
  opened : c.queue.closed = false
  started : spawned es = List.range n
  full : c.workers.length = n
  there : ∀ w ∈ c.workers, w ≠ .exited

/-- A crew of which nothing is left: `k` workers were started, and all of these have gone and were
waited for. -/
structure WoundUp (k : Nat) (c : Crew α) (es : List (Event α)) : Prop where
  terminated : c.life = .terminated
  shut : c.queue.closed = true
  started : spawned es = List.range k
  gone : c.workers = List.replicate k .exited
  dismissed : ∀ j, .queue (.dismissed j) ∈ es ↔ j < k
  joined : joined es = List.range k
  /-- All of it was done by one shutdown. -/
  script : performed es = closingScript k []

theorem Standing.ready_of_running (standing : Standing c es) (running : c.life = .running) :
    c.ready = true := by
  cases standing <;> simp_all

/-- **A crew that runs is manned** if all its workers were started. -/
theorem History.manned (history : History n c es) (running : c.life = .running)
    (full : c.workers.length = n) : Manned n c es where
  running := running
  ready := history.standing.ready_of_running running
  opened := (history.standing.of_running running).2.2
  started := by rw [history.spawned_eq, full]
  full := full
  there := by
    intro w member exited
    obtain ⟨k, here⟩ := List.getElem?_of_mem member
    rw [exited] at here
    exact history.not_exited_of_open (history.standing.of_running running).2.2 k here

/-- **A terminated crew that was never given a task has been wound up.** -/
theorem History.woundUp (history : History n c es) (untasked : accepted es = [])
    (ended : c.life = .terminated) : WoundUp c.workers.length c es := by
  obtain ⟨⟨as, script⟩, shut, gone, -⟩ := history.standing.of_terminated ended
  have released : as = [] := by
    rw [← released_closingScript c.workers.length as, ← script, released_performed,
      (history.unused untasked).released]
  subst released
  exact {
    terminated := ended
    shut := shut
    started := history.spawned_eq
    gone := List.eq_replicate_iff.mpr ⟨rfl, gone.eq_exited⟩
    dismissed := by
      intro j
      rw [← history.exited_iff j]
      exact ⟨fun here => (List.getElem?_eq_some_iff.mp here).1, gone j⟩
    joined := by rw [← joined_performed, script, joined_closingScript]
    script := script }

/-- Shutting down a crew that has been wound up does nothing. -/
theorem WoundUp.step_shutdown {k : Nat} (woundUp : WoundUp k c es) (who : Nat) :
    c.step (.shutdown who) = some (c, [.returned (.caller who)]) := by
  simp [step, woundUp.terminated]

end LineService.Crew
