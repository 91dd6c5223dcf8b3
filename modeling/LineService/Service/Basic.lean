import LineService.Crew.Basic
import LineService.Reception
import LineService.Service.Bind
import LineService.Session
import LineService.Tally.Basic

/-!
# The service

A service is a reception, a crew, and one session for every connection that was ever made,
under the number of the connection.  The tasks of the crew are these numbers: a worker that
has been handed one serves the session until it is over.  All sessions share one tally.

When the reception is over the crew is shut down.  Sessions that are being served last as
long as their clients want; connections that were still waiting are closed without having
been served.  The service has ended when every worker has gone home.

`Service.step` lets everybody act in any order: clients, those who request stopping, the
reception, the workers at the queue and in their sessions, and whoever runs the service.
-/

namespace LineService

namespace Service

/-- How far whoever runs the service has come. -/
inductive Stage where
  /-- Waiting for the reception to be over. -/
  | receiving
  /-- Waiting for the crew to be shut down. -/
  | closing
  | ended
  deriving DecidableEq, Repr

end Service

/-- A running service. -/
structure Service where
  reception : Reception Nat
  crew : Crew Nat
  /-- Connection `n` is at place `n`. -/
  sessions : List Session
  tally : Tally
  stage : Service.Stage
  deriving DecidableEq, Repr

namespace Service

/-- A service that is about to start, with a crew that has been founded. -/
def new (crew : Crew Nat) (firstId : UInt32) : Service :=
  ⟨.new firstId, crew, [], .zero, .receiving⟩

/-- Who takes which step. -/
inductive Label where
  /-- A client at this address connects. -/
  | connect (peer : String)
  /-- Bytes from the client arrive on connection `n`. -/
  | receive (n : Nat) (bytes : List UInt8)
  /-- The client of connection `n` finishes sending. -/
  | finish (n : Nat)
  /-- Connection `n` breaks. -/
  | sever (n : Nat) (f : Net.Fault)
  /-- Sending on connection `n` fails from here on. -/
  | silence (n : Nat) (f : Net.Fault)
  | request (h : Nat)
  /-- The first to request stopping connects from this address, or fails to. -/
  | wake (result : Except Net.Fault String)
  | look
  | accept
  | fail (f : Net.Fault)
  /-- The reception hands its connection to the crew. -/
  | hand (pick : Nat)
  | ask (k : Nat)
  | resume (k : Nat)
  | stir (k : Nat)
  /-- Worker `k` takes the next step of its session, at the time `now`. -/
  | serve (k : Nat) (now : String)
  /-- Worker `k` is done with its session. -/
  | retire (k : Nat)
  /-- Whoever runs the service takes the next step. -/
  | proceed

/-- What a step comes to. -/
inductive Event where
  | reception (e : Reception.Event Nat)
  | crew (e : Crew.Event Nat)
  | session (n : Nat) (a : Session.Act)
  | shuttingDown
  /-- The service has ended with this many clients still counted. -/
  | ended (active : Nat)
  deriving DecidableEq, Repr

/-! ## Parts of steps -/

/-- Something happens to session `n`. -/
def onSession (s : Service) (n : Nat) (f : Session → Session) : Service :=
  { s with sessions := s.sessions.modify n f }

/-- The stream of connection `n` is closed without its client having been served. -/
def discard (s : Service) (n : Nat) : Service :=
  s.onSession n fun x => { x with phase := .discarded }

/-- What an event of the reception does to connections: those that go no further are
closed, and those that are handed over get their number. -/
def heed (s : Service) : Reception.Event Nat → Service
  | .turnedAway n => s.discard n
  | .refused n _ => s.discard n
  | .accepted n id => s.onSession n fun x => { x with id := id }
  | _ => s

/-- What an event of the crew does to connections: those that are released are closed. -/
def release (s : Service) : Crew.Event Nat → Service
  | .queue (.drained ns) => ns.foldl discard s
  | _ => s

/-- What a session does to the tally. -/
def count (t : Tally) : Session.Act → Tally
  | .enter => t.increment.2
  | .leave => t.decrement.2
  | .note _ => t

/-- A step of the reception. -/
def receptionStep (s : Service) (l : Reception.Label Nat) : Option (Service × List Event) :=
  (s.reception.step l).map fun r =>
    (r.2.foldl heed { s with reception := r.1 }, r.2.map .reception)

/-- A step of the crew. -/
def crewStep (s : Service) (l : Crew.Label Nat) : Option (Service × List Event) :=
  (s.crew.step l).map fun r => (r.2.foldl release { s with crew := r.1 }, r.2.map .crew)

/-- The connection that worker `k` is serving. -/
def servedBy (s : Service) (k : Nat) : Option Nat :=
  match s.crew.workers[k]? with
  | some (.busy n) => some n
  | _ => none

/-- Worker `k` takes the next step of its session. -/
def serve (s : Service) (k : Nat) (now : String) : Option (Service × List Event) := do
  let n ← s.servedBy k
  let x ← s.sessions[n]?
  let (x, acts) ← x.turn now s.tally.value
  some ({ s with sessions := s.sessions.set n x, tally := acts.foldl count s.tally },
    acts.map (.session n))

/-- The next step of whoever runs the service: the server's `run`, once the dispatcher's has
returned. -/
def proceed (s : Service) : Option (Service × List Event) :=
  match s.stage with
  | .receiving =>
    match s.reception.phase with
    | .over =>
      (crewStep { s with stage := .closing } (.shutdown 0)).map fun r =>
        (r.1, .shuttingDown :: r.2)
    | _ => none
  | .closing =>
    if s.crew.life = .terminated then
      some ({ s with stage := .ended }, [.ended s.tally.value])
    else s.crewStep .advance
  | .ended => none

/-! ## Steps -/

/-- The steps of a service: those of the dispatcher, the worker pool, its clients' connections and
whoever requests stopping, side by side. -/
def step (s : Service) : Label → Option (Service × List Event)
  | .connect peer =>
    receptionStep { s with sessions := s.sessions ++ [Session.new peer] }
      (.connect s.sessions.length)
  | .receive n bytes => some (s.onSession n (·.receive bytes), [])
  | .finish n => some (s.onSession n (·.finish), [])
  | .sever n f => some (s.onSession n (·.sever f), [])
  | .silence n f => some (s.onSession n (·.silence f), [])
  | .request h => s.receptionStep (.request h)
  | .wake (.error f) => s.receptionStep (.wake (.error f))
  | .wake (.ok peer) =>
    receptionStep { s with sessions := s.sessions ++ [(Session.new peer).finish] }
      (.wake (.ok s.sessions.length))
  | .look => s.receptionStep .look
  | .accept => s.receptionStep .accept
  | .fail f => s.receptionStep (.fail f)
  | .hand pick =>
    match s.reception.phase with
    | .handing n _ => do
      let (t, es) ← s.crewStep (.submit n pick)
      let (t, fs) ← t.receptionStep (.hand (es == [.crew (.queue (.accepted n))]))
      some (t, es ++ fs)
    | _ => none
  | .ask k => s.crewStep (.ask k)
  | .resume k => s.crewStep (.resume k)
  | .stir k => s.crewStep (.stir k)
  | .serve k now => s.serve k now
  | .retire k =>
    match (s.servedBy k).bind (s.sessions[·]?) with
    | some x => if x.phase = .over then s.crewStep (.finish k .returned) else none
    | none => none
  | .proceed => s.proceed

/-! ## What a service reports -/

/-- The address of connection `n`. -/
def peerOf (s : Service) (n : Nat) : String := ((s.sessions[n]?).map (·.peer)).getD ""

/-- What the thread that runs the service, or requests stopping, reports of an event. -/
def Event.record? (s : Service) (listener : Net.Address) : Event → Option Journal.Record
  | .reception e => e.record? s.peerOf listener
  | .crew e => e.record?
  | .session .. => none
  | .shuttingDown => some (serverRecord "Shutting down")
  | .ended active => some (serverRecord
      ("Stopped. Total active clients at shutdown: " ++ toString active))

/-- What a worker reports of an event. -/
def Event.workerRecord? (s : Service) : Event → Option Journal.Record
  | .crew e => e.workerRecord?
  | .session n (.note notice) => (s.sessions[n]?).map fun x => notice.record x.peer x.id
  | _ => none

/-- All that is reported of an event. -/
def Event.records (s : Service) (listener : Net.Address) (e : Event) : List Journal.Record :=
  (e.record? s listener).toList ++ (e.workerRecord? s).toList

end Service

end LineService
