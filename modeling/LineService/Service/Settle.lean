import LineService.Crew.Settle
import LineService.Service.Basic

/-!
# Running a service until it rests

`nextTurn` picks a step that can be taken without a client, a requester or the network
doing anything: the reception first, then workers at the queue, then sessions, then whoever
runs the service.  A service rests when every client in service is waited for.
-/

namespace LineService.Service

/-- What the world around a service is like. -/
structure Surroundings where
  loopback : Net.Loopback
  /-- The text of the clock. -/
  now : String
  /-- The address from which the first to request stopping connects. -/
  waker : String

/-- A step of the reception that is due. -/
def receptionTurn (s : Service) : Option Label :=
  match s.reception.phase with
  | .starting | .checking | .judging _ => some .look
  | .accepting => if s.reception.backlog.isEmpty then none else some .accept
  | .handing .. => some (.hand 0)
  | .over => none

/-- The connection that the first to request stopping has to make. -/
def wakeTurn (w : Surroundings) (s : Service) : Option Label :=
  if s.reception.waking then
    some (.wake ((w.loopback.connect true).map fun () => w.waker))
  else none

/-- A worker that is about to ask or has been woken. -/
def queueTurn (s : Service) : Option Label :=
  match s.crew.firstAsking with
  | some k => some (.ask k)
  | none => s.crew.queue.woken.head?.map .resume

/-- What worker `k` can do in its session. -/
def sessionTurn (w : Surroundings) (s : Service) (k : Nat) : Option Label := do
  let n ← s.servedBy k
  let x ← s.sessions[n]?
  if x.phase = .over then some (.retire k)
  else if (x.turn w.now s.tally.value).isSome then some (.serve k w.now)
  else none

/-- A step that is taken without anything happening around the service. -/
def nextTurn (w : Surroundings) (s : Service) : Option Label :=
  wakeTurn w s <|> receptionTurn s <|> queueTurn s <|>
    (List.range s.crew.workers.length).findSome? (sessionTurn w s) <|>
    (if s.proceed.isSome then some .proceed else none)

/-- More steps than a service can take by itself: a connection is accepted, queued, handed
over, served and retired, and the crew is shut down. -/
def stepBound (s : Service) : Nat :=
  (s.sessions.map fun x => x.turnBound + 12).foldr (· + ·) 0 + s.crew.stepBound + 16

/-- Lets a service run until it rests. -/
def settle (w : Surroundings) (s : Service) : Service × List Event :=
  Machine.settle step (nextTurn w) s.stepBound s

/-- Takes a step, if it can be taken, and lets the service run until it rests. -/
def stepAndSettle (w : Surroundings) (s : Service) (l : Label) : Service × List Event :=
  match s.step l with
  | none => (s, [])
  | some (t, es) =>
    let r := settle w t
    (r.1, es ++ r.2)

/-- Takes several steps in turn, resting after each. -/
def stepsAndSettle (w : Surroundings) : Service → List Label → Service × List Event
  | s, [] => (s, [])
  | s, l :: ls =>
    let r := s.stepAndSettle w l
    let t := stepsAndSettle w r.1 ls
    (t.1, r.2 ++ t.2)

end LineService.Service
