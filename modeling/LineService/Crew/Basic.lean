import LineService.Journal.Record
import LineService.Net.Fault
import LineService.Queue

/-!
# A crew of workers

A crew is a fixed number of workers that take tasks from one queue and carry out one at a
time.  It is founded by starting its workers one after the other; if one cannot be
started, those that were are sent home and founding fails.

Shutting a crew down closes its queue, waits until every worker has finished its task and
gone home, and releases the tasks nobody took.  Only the first call does that.  Any later
call returns at once, also while the first is still at it.

A task that comes to grief costs no worker: the worker reports it and asks for the next.
-/

namespace LineService.Crew

/-- How far a crew has come. -/
inductive Life where
  | created
  | running
  | shuttingDown
  | terminated
  deriving DecidableEq, Repr

/-- What a worker is doing. -/
inductive Worker (α : Type) where
  /-- About to ask for a task. -/
  | asking
  /-- Waiting at the queue. -/
  | waiting
  | busy (task : α)
  | exited
  deriving DecidableEq, Repr

/-- What a task that came to grief leaves behind. -/
inductive Payload where
  | text (message : String)
  /-- Something that is no text. -/
  | other
  deriving DecidableEq, Repr

/-- The text under which it is reported: the worker pool's `panic_message`. -/
def Payload.message : Payload → String
  | .text message => message
  | .other => "unknown panic payload"

/-- How a task ends. -/
inductive Outcome where
  | returned
  | panicked (payload : Payload)
  deriving DecidableEq, Repr

/-- Why there is no crew. -/
inductive FoundingError where
  /-- A crew has at least one worker. -/
  | invalidSize (size : Nat)
  | workerFailed (worker : Nat) (fault : Net.Fault)
  deriving DecidableEq, Repr

/-- The sentence that reports that a crew could not be founded. -/
def foundingMessage (reason : String) : String := "failed to create worker pool: " ++ reason

/-- The sentence that reports the error. -/
def FoundingError.message : FoundingError → String
  | .invalidSize size =>
    "invalid worker count " ++ toString size ++ ", at least one worker is required"
  | .workerFailed worker fault =>
    foundingMessage ("worker thread " ++ toString worker ++ ": " ++ fault.message)

/-- The sentence that reports a task offered to a closed queue. -/
def closedMessage : String := "the task queue is closed"

/-- Who is shutting a crew down. -/
inductive Closer where
  /-- The founder, because worker `worker` could not be started. -/
  | founder (worker : Nat) (fault : Net.Fault)
  /-- A caller. -/
  | caller (c : Nat)
  deriving DecidableEq, Repr

/-- How far the shutdown has come. -/
inductive Closing where
  /-- The queue is about to be closed. -/
  | closing
  /-- Workers before `k` have gone home. -/
  | joining (k : Nat)
  /-- What is left in the queue is about to be released. -/
  | draining
  /-- The crew is about to be terminated. -/
  | ending
  deriving DecidableEq, Repr

end Crew

/-- A crew and whoever is shutting it down. -/
structure Crew (α : Type) where
  /-- The number of workers wanted. -/
  size : Nat
  life : Crew.Life
  /-- Founding has succeeded, and the crew can be used. -/
  ready : Bool
  queue : Queue α
  /-- The workers started so far. -/
  workers : List (Crew.Worker α)
  closer : Option (Crew.Closer × Crew.Closing)
  deriving DecidableEq, Repr

namespace Crew

variable {α : Type}

/-- A crew none of whose workers has been started. -/
def new (size : Nat) : Except FoundingError (Crew α) :=
  if size = 0 then .error (.invalidSize size)
  else .ok ⟨size, .created, false, .empty, [], none⟩

/-- Which participant takes which step. -/
inductive Label (α : Type) where
  /-- The founder starts the next worker, or fails to. -/
  | spawn (result : Except Net.Fault Unit)
  /-- The founder hands the crew over, all workers being started. -/
  | handOver
  | submit (task : α) (pick : Nat)
  /-- Caller `c` begins a shutdown. -/
  | shutdown (c : Nat)
  /-- Whoever is shutting the crew down takes the next step. -/
  | advance
  | ask (k : Nat)
  | resume (k : Nat)
  | stir (k : Nat)
  /-- Worker `k` comes to the end of its task. -/
  | finish (k : Nat) (outcome : Outcome)

/-- What a step comes to. -/
inductive Event (α : Type) where
  | spawned (k : Nat)
  | spawnFailed (k : Nat) (fault : Net.Fault)
  | handedOver (size : Nat)
  | queue (e : Queue.Event α)
  | finished (k : Nat) (task : α) (outcome : Outcome)
  | signalled
  | joined (k : Nat)
  | stopped
  /-- A call of shutdown has returned, or founding has failed. -/
  | returned (c : Closer)
  deriving DecidableEq, Repr

/-- Worker `k` goes to the queue: a round of the worker's `run` at `dequeue_blocking`. -/
def atQueue (c : Crew α) (k : Nat) (l : Queue.Label α) : Option (Crew α × List (Event α)) :=
  match c.queue.step l with
  | none => none
  | some (q, es) =>
    let now : Worker α := match es with
      | [.handed _ a] => .busy a
      | [.dismissed _] => .exited
      | _ => .waiting
    some ({ c with queue := q, workers := c.workers.set k now }, es.map .queue)

/-- The next step of a shutdown: the worker pool's `shutdown` behind the change of its state, which
closes the queue, joins the workers in turn, drains the queue and sets the last state. -/
def advance (c : Crew α) : Option (Crew α × List (Event α)) :=
  match c.closer with
  | none => none
  | some (who, .closing) =>
    some ({ c with queue := c.queue.close.2, closer := some (who, .joining 0) },
      [.queue (.closed c.queue.close.1)])
  | some (who, .joining k) =>
    match c.workers[k]? with
    | none => some ({ c with closer := some (who, .draining) }, [])
    | some .exited => some ({ c with closer := some (who, .joining (k + 1)) }, [.joined k])
    | some _ => none
  | some (who, .draining) =>
    some ({ c with queue := c.queue.drain.2, closer := some (who, .ending) },
      [.queue (.drained c.queue.drain.1)])
  | some (who, .ending) =>
    some ({ c with life := .terminated, closer := none }, [.stopped, .returned who])

/-- The steps of a crew: the worker pool's `with_spawner`, start by start, its `submit` and
`shutdown`, and its workers' `run` and `execute`. -/
def step (c : Crew α) : Label α → Option (Crew α × List (Event α))
  | .spawn result =>
    if c.life = .created ∧ c.workers.length < c.size then
      let k := c.workers.length
      match result with
      | .ok () => some ({ c with workers := c.workers ++ [.asking] }, [.spawned k])
      | .error f =>
        some ({ c with life := .shuttingDown, closer := some (.founder k f, .closing) },
          [.spawnFailed k f, .signalled])
    else none
  | .handOver =>
    if c.life = .created ∧ c.workers.length = c.size then
      some ({ c with life := .running, ready := true }, [.handedOver c.size])
    else none
  | .submit task pick =>
    if c.ready then
      match c.queue.enqueue task pick with
      | .ok q => some ({ c with queue := q }, [.queue (.accepted task)])
      | .error task => some (c, [.queue (.refused task)])
    else none
  | .shutdown who =>
    if c.ready ∨ c.life = .terminated then
      match c.life with
      | .shuttingDown | .terminated => some (c, [.returned (.caller who)])
      | .created | .running =>
        some ({ c with life := .shuttingDown, closer := some (.caller who, .closing) },
          [.signalled])
    else none
  | .advance => c.advance
  | .ask k =>
    match c.workers[k]? with
    | some .asking => c.atQueue k (.arrive k)
    | _ => none
  | .resume k =>
    match c.workers[k]? with
    | some .waiting => c.atQueue k (.resume k)
    | _ => none
  | .stir k =>
    match c.workers[k]? with
    | some .waiting => c.atQueue k (.stir k)
    | _ => none
  | .finish k outcome =>
    match c.workers[k]? with
    | some (.busy task) =>
      some ({ c with workers := c.workers.set k .asking }, [.finished k task outcome])
    | _ => none

/-! ## What a crew reports -/

/-- A record about the crew as a whole. -/
def crewRecord (level : Journal.Level) (text : String) : Journal.Record :=
  ⟨level, "WorkerPool: " ++ text⟩

/-- A record about worker `k`. -/
def workerRecord (level : Journal.Level) (k : Nat) (text : String) : Journal.Record :=
  ⟨level, "Worker " ++ toString k ++ ": " ++ text⟩

/-- What whoever founds a crew or shuts it down reports of an event. -/
def Event.record? : Event α → Option Journal.Record
  | .spawned k => some (crewRecord .debug ("Created worker thread " ++ toString k))
  | .spawnFailed k f => some (crewRecord .error
      ("Failed to create worker thread " ++ toString k ++ ": " ++ f.message))
  | .handedOver size =>
    some (crewRecord .info ("Created with " ++ toString size ++ " threads"))
  | .signalled => some (crewRecord .info "Signalling worker threads to stop")
  | .queue (.drained (a :: as)) => some (crewRecord .warn
      ("Released " ++ toString (a :: as).length ++ " queued tasks that were never run"))
  | .stopped => some (crewRecord .info "Stopped")
  | _ => none

/-- What a worker reports of an event. -/
def Event.workerRecord? : Event α → Option Journal.Record
  | .spawned k => some (workerRecord .debug k "Starting")
  | .finished k _ (.panicked p) => some (workerRecord .error k ("Task panicked: " ++ p.message))
  | .queue (.dismissed k) => some (workerRecord .debug k "Exiting")
  | _ => none

/-- All that is reported of an event. -/
def Event.records (e : Event α) : List Journal.Record :=
  e.record?.toList ++ e.workerRecord?.toList

end Crew

end LineService
