import LineService.Journal.Record
import LineService.Line.Inbox
import LineService.Request

/-!
# Serving one client

A session answers one client's lines, one at a time, until the client asks to quit, hangs
up, sends a line that is too long, or the connection fails.  While it lasts the client is
counted.  The stream is closed before the client is counted out.

`Session.turn` is the next step of a session.  What it needs from its surroundings are the
time and the number of clients being served at that moment, and what it does to them is
said by `Act`.  The other side acts on a session by `receive`, `finish` and `sever`, at any
time.  A session has no next step while it waits for a line, and when it is over.
-/

namespace LineService

namespace Session

/-- Where a session stands. -/
inductive Phase where
  /-- Nobody serves the client yet. -/
  | fresh
  /-- The client has just been counted. -/
  | counted
  /-- Waiting for a line. -/
  | reading
  /-- A line has been read and not yet answered. -/
  | answering (line : String)
  /-- The answer is about to be sent. -/
  | replying (r : Response)
  /-- The stream is about to be closed. -/
  | closing
  /-- The stream is closed, and the client is about to be counted out. -/
  | leaving
  /-- The client has been counted out. -/
  | left
  | over
  /-- The stream was closed without the client having been served. -/
  | discarded
  deriving DecidableEq, Repr

/-- What a session reports. -/
inductive Notice where
  | connected (active : Nat)
  | received (size : Nat)
  | processing (line : String)
  | disconnected
  | receiveFailed (t : Line.Trouble)
  | sendFailed (f : Net.Fault)
  | quit
  | closed (active : Nat)
  deriving DecidableEq, Repr

/-- What a session does to its surroundings. -/
inductive Act where
  /-- The client is counted. -/
  | enter
  /-- The client is counted out. -/
  | leave
  | note (n : Notice)
  deriving DecidableEq, Repr

end Session

/-- One client's session. -/
structure Session where
  /-- The client's address. -/
  peer : String
  /-- The number under which the connection is reported. -/
  id : UInt32
  phase : Session.Phase
  inbox : Line.Inbox
  /-- The lines sent so far. -/
  sent : List String
  /-- Why sending fails, once it does. -/
  mute : Option Net.Fault
  deriving DecidableEq, Repr

namespace Session

/-- The session of a client nobody serves yet. -/
def new (peer : String) : Session := ⟨peer, 0, .fresh, .empty, [], none⟩

/-- The bytes sent so far. -/
def output (s : Session) : List UInt8 := s.sent.flatMap Line.write

/-- The client is being counted. -/
def isCounted (s : Session) : Bool :=
  match s.phase with
  | .counted | .reading | .answering _ | .replying _ | .closing | .leaving => true
  | _ => false

/-- The stream is open on the server's side. -/
def isOpen (s : Session) : Bool :=
  match s.phase with
  | .leaving | .left | .over | .discarded => false
  | _ => true

/-! ## The other side -/

/-- Bytes arrive from the client. -/
def receive (s : Session) (bytes : List UInt8) : Session :=
  { s with inbox := s.inbox.receive bytes }

/-- The client finishes sending. -/
def finish (s : Session) : Session := { s with inbox := s.inbox.finish }

/-- The connection breaks: there is nothing more to read, and nothing can be sent. -/
def sever (s : Session) (f : Net.Fault) : Session :=
  { s with inbox := s.inbox.sever f, mute := some f }

/-- Sending fails from here on. -/
def silence (s : Session) (f : Net.Fault) : Session := { s with mute := some f }

/-! ## The session itself -/

/-- What the outcome of reading a line leads to. -/
def afterReading (s : Session) : Line.Reading → Session × List Act
  | .line text size =>
    ({ s with phase := .answering text }, [.note (.received size), .note (.processing text)])
  | .finished => ({ s with phase := .closing }, [.note .disconnected])
  | .trouble t => ({ s with phase := .closing }, [.note (.receiveFailed t)])

/-- Sends an answer. -/
def reply (s : Session) (r : Response) : Session × List Act :=
  match s.mute with
  | some f => ({ s with phase := .closing }, [.note (.sendFailed f)])
  | none =>
    let s := { s with sent := s.sent ++ [r.text] }
    if r.closes then ({ s with phase := .closing }, [.note .quit])
    else ({ s with phase := .reading }, [])

/-- The next step of a session, at the time `now` and with `active` clients being served: the client
connection's `run`, from one use of the stream or the counter to the next. -/
def turn (now : String) (active : Nat) (s : Session) : Option (Session × List Act) :=
  match s.phase with
  | .fresh => some ({ s with phase := .counted }, [.enter])
  | .counted => some ({ s with phase := .reading }, [.note (.connected active)])
  | .reading =>
    match s.inbox.read? with
    | none => none
    | some (reading, inbox) => some (afterReading { s with inbox := inbox } reading)
  | .answering line =>
    some ({ s with phase := .replying ((Request.ofLine line).respond now active) }, [])
  | .replying r => some (s.reply r)
  | .closing => some ({ s with phase := .leaving }, [])
  | .leaving => some ({ s with phase := .left }, [.leave])
  | .left => some ({ s with phase := .over }, [.note (.closed active)])
  | .over | .discarded => none

/-! ## What a session reports -/

/-- The record of a notice, for the client at `peer` under the number `id`. -/
def Notice.record (peer : String) (id : UInt32) (n : Notice) : Journal.Record :=
  let who := peer ++ " id=" ++ toString id.toNat
  let active (n : Nat) := " (Active: " ++ toString n ++ ")"
  match n with
  | .connected n => ⟨.info, "Client connected: " ++ who ++ active n⟩
  | .received size => ⟨.debug, "LineStream Rx: " ++ toString size ++ " bytes"⟩
  | .processing line => ⟨.debug, "Processing command from " ++ peer ++ ": " ++ line⟩
  | .disconnected => ⟨.info, "Client disconnected: " ++ who⟩
  | .receiveFailed t => ⟨.error, "Receive failed for " ++ who ++ ": " ++ t.message⟩
  | .sendFailed f => ⟨.error, "Send failed for " ++ who ++ ": " ++ f.message⟩
  | .quit => ⟨.info, "Client requested disconnect: " ++ who⟩
  | .closed n => ⟨.debug, "Connection closed: " ++ who ++ active n⟩

/-- The records of what a session does. -/
def records (s : Session) (acts : List Act) : List Journal.Record :=
  acts.filterMap fun a => match a with
    | .note n => some (n.record s.peer s.id)
    | _ => none

/-! ## A session by itself -/

/-- More turns than a session can take before it has to wait: three for each line, and a
few more. -/
def turnBound (s : Session) : Nat := 3 * s.inbox.pending.length + 10

/-- What a session's acts do to the number of clients being served. -/
def countAfter (active : Nat) (acts : List Act) : Nat :=
  acts.foldl (fun n a => match a with
    | .enter => n + 1
    | .leave => n - 1
    | .note _ => n) active

/-- Runs a session by itself until it waits or is over, starting with `active` clients
being served. -/
def settleFrom (now : String) : (fuel active : Nat) → Session → Session × Nat × List Act
  | 0, active, s => (s, active, [])
  | fuel + 1, active, s =>
    match s.turn now active with
    | none => (s, active, [])
    | some (s, acts) =>
      let rest := settleFrom now fuel (countAfter active acts) s
      (rest.1, rest.2.1, acts ++ rest.2.2)

/-- Runs a session by itself until it waits or is over. -/
def settle (now : String) (active : Nat) (s : Session) : Session × Nat × List Act :=
  settleFrom now s.turnBound active s

end Session

end LineService
