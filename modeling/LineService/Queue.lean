import LineService.Machine

/-!
# A closable queue with waiting consumers

Producers append tasks, consumers take them from the front, and a consumer that finds
an open, empty queue falls asleep.  Appending a task wakes one sleeper, if there is one;
closing wakes all of them.  A consumer may also wake for no reason.  A woken consumer
looks at the queue again when it gets round to it, and until then others may come and
take what it was woken for; then it falls asleep again.

A closed queue takes no task and hands none out.  What it still holds stays until it is
drained.

Every step below is what one participant does while it has the queue to itself, and
`Label` names the steps that participants can take in any order.
-/

namespace LineService

/-- A queue of tasks and the consumers that wait at it. -/
structure Queue (α : Type) where
  tasks : List α
  closed : Bool
  /-- Consumers that sleep, the longest sleeper first. -/
  asleep : List Nat
  /-- Consumers that have been woken and have not looked again. -/
  woken : List Nat
  deriving DecidableEq, Repr

namespace Queue

variable {α : Type}

/-- An open queue at which nobody waits. -/
def empty : Queue α := ⟨[], false, [], []⟩

/-! ## What one participant does -/

/-- Wakes one sleeper, if there is one; `pick` is the choice among them. -/
def wakeOne (q : Queue α) (pick : Nat) : Queue α :=
  match q.asleep[pick % q.asleep.length]? with
  | none => q
  | some k => { q with asleep := q.asleep.erase k, woken := q.woken ++ [k] }

/-- Wakes every sleeper. -/
def wakeAll (q : Queue α) : Queue α :=
  { q with asleep := [], woken := q.woken ++ q.asleep }

/-- Appends a task and wakes a sleeper, or hands the task back: the task queue's `enqueue`. -/
def enqueue (q : Queue α) (a : α) (pick : Nat) : Except α (Queue α) :=
  if q.closed then .error a
  else .ok (wakeOne { q with tasks := q.tasks ++ [a] } pick)

/-- What a consumer comes away with. -/
inductive Taken (α : Type) where
  | task (a : α)
  /-- There will be nothing to do any more. -/
  | shutdown
  deriving DecidableEq, Repr

/-- A consumer has to wait. -/
def mustWait (q : Queue α) : Bool := q.tasks.isEmpty && !q.closed

/-- What a consumer takes that does not have to wait. -/
def take (q : Queue α) : Taken α × Queue α :=
  if q.closed then (.shutdown, q)
  else match q.tasks with
    | [] => (.shutdown, q)
    | a :: rest => (.task a, { q with tasks := rest })

/-- Closes the queue; says whether it was open.  This is the task queue's `close`. -/
def close (q : Queue α) : Bool × Queue α :=
  if q.closed then (false, q) else (true, wakeAll { q with closed := true })

/-- Takes out everything that is waiting: the task queue's `drain`. -/
def drain (q : Queue α) : List α × Queue α := (q.tasks, { q with tasks := [] })

/-! ## All participants -/

/-- Which participant takes which step. -/
inductive Label (α : Type) where
  | enqueue (a : α) (pick : Nat)
  /-- Consumer `k` comes to the queue. -/
  | arrive (k : Nat)
  /-- The woken consumer `k` looks again. -/
  | resume (k : Nat)
  /-- The sleeper `k` wakes for no reason. -/
  | stir (k : Nat)
  | close
  | drain
  | measure
  deriving DecidableEq, Repr

/-- What a step comes to. -/
inductive Event (α : Type) where
  | accepted (a : α)
  | refused (a : α)
  | handed (k : Nat) (a : α)
  | dismissed (k : Nat)
  | slept (k : Nat)
  | stirred (k : Nat)
  | closed (first : Bool)
  | drained (as : List α)
  | measured (n : Nat)
  deriving DecidableEq, Repr

/-- Consumer `k`, which is neither asleep nor on its way, looks at the queue: one round of the task
queue's `dequeue_blocking`. -/
def look (q : Queue α) (k : Nat) : Queue α × List (Event α) :=
  if q.mustWait then ({ q with asleep := q.asleep ++ [k] }, [.slept k])
  else match q.take with
    | (.task a, q') => (q', [.handed k a])
    | (.shutdown, q') => (q', [.dismissed k])

/-- The steps of the queue.  Each is what one operation of the task queue does while it holds the
lock; `dequeue_blocking` takes a step whenever it looks, and may sleep in between. -/
def step (q : Queue α) : Label α → Option (Queue α × List (Event α))
  | .enqueue a pick =>
    match q.enqueue a pick with
    | .ok q' => some (q', [.accepted a])
    | .error a => some (q, [.refused a])
  | .arrive k => if k ∈ q.asleep ∨ k ∈ q.woken then none else some (q.look k)
  | .resume k =>
    if k ∈ q.woken then some (look { q with woken := q.woken.erase k } k) else none
  | .stir k =>
    if k ∈ q.asleep then
      some ({ q with asleep := q.asleep.erase k, woken := q.woken ++ [k] }, [.stirred k])
    else none
  | .close => some (q.close.2, [.closed q.close.1])
  | .drain => some (q.drain.2, [.drained q.drain.1])
  | .measure => some (q, [.measured q.tasks.length])

/-! ## Letting woken consumers look -/

/-- The longest woken consumer is the next to look. -/
def nextResume (q : Queue α) : Option (Label α) := q.woken.head?.map .resume

/-- Lets every woken consumer look again, in the order in which they were woken. -/
def settle (q : Queue α) : Queue α × List (Event α) :=
  Machine.settle step nextResume q.woken.length q

/-- Takes a step and lets woken consumers look again. -/
def stepAndSettle (q : Queue α) (l : Label α) : Option (Queue α × List (Event α)) :=
  (q.step l).map fun r => (r.1.settle.1, r.2 ++ r.1.settle.2)

end Queue

end LineService
