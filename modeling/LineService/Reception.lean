import LineService.Journal.Record
import LineService.Machine
import LineService.Net.Address
import LineService.Net.Fault

/-!
# Accepting connections

The reception accepts one connection after the other and hands each over to be served,
until it is asked to stop.  Accepting blocks while no connection is waiting, so whoever
asks first also makes a connection of its own, which wakes the reception: when accepting
returns, the reception looks whether it has been asked, and if so it closes the connection
that woke it, or whichever other one was first, and leaves.

`Reception.step` has the steps of the reception, of the clients that connect, and of those
who ask it to stop, through any handle.  An error of accepting costs nothing but the
attempt, and connections are numbered in the order in which they are handed over.
-/

namespace LineService

namespace Reception

/-- What accepting a connection returns. -/
inductive Outcome (χ : Type) where
  | connection (c : χ)
  | failed (f : Net.Fault)
  deriving DecidableEq, Repr

/-- Where the reception stands. -/
inductive Phase (χ : Type) where
  | starting
  /-- About to look whether it has been asked to stop. -/
  | checking
  /-- Waiting for a connection. -/
  | accepting
  /-- Accepting has returned; about to look once more. -/
  | judging (o : Outcome χ)
  /-- The connection is about to be handed over under the number `id`. -/
  | handing (c : χ) (id : UInt32)
  | over
  deriving DecidableEq, Repr

end Reception

/-- The reception, its listener, and the request to stop.  `χ` stands for connections. -/
structure Reception (χ : Type) where
  phase : Reception.Phase χ
  /-- The number of the next connection. -/
  nextId : UInt32
  /-- Stopping has been requested. -/
  requested : Bool
  /-- The first to request it has not made its connection yet. -/
  waking : Bool
  /-- Connections that wait to be accepted, the oldest first. -/
  backlog : List χ
  deriving DecidableEq, Repr

namespace Reception

variable {χ : Type}

/-- A reception that is about to start. -/
def new (firstId : UInt32) : Reception χ := ⟨.starting, firstId, false, false, []⟩

/-- Who takes which step. -/
inductive Label (χ : Type) where
  /-- A client connects. -/
  | connect (c : χ)
  /-- Somebody requests stopping through handle `h`. -/
  | request (h : Nat)
  /-- The first requester connects, or fails to. -/
  | wake (result : Except Net.Fault χ)
  /-- The reception starts, or looks whether it has been asked to stop. -/
  | look
  /-- Accepting returns the oldest connection. -/
  | accept
  /-- Accepting fails. -/
  | fail (f : Net.Fault)
  /-- The connection is taken over by those who serve, or refused. -/
  | hand (taken : Bool)

/-- What a step comes to. -/
inductive Event (χ : Type) where
  | started
  | stopping
  /-- Accepting has returned. -/
  | returned (o : Outcome χ)
  /-- A connection is about to be handed over. -/
  | accepted (c : χ) (id : UInt32)
  | handed (c : χ) (id : UInt32)
  | refused (c : χ) (id : UInt32)
  /-- A connection was closed because the reception had been asked to stop. -/
  | turnedAway (c : χ)
  | acceptFailed (f : Net.Fault)
  /-- The first request. -/
  | requested (h : Nat)
  /-- A later request, which does nothing. -/
  | repeated (h : Nat)
  | woke (c : χ)
  | unwoken (f : Net.Fault)
  deriving DecidableEq, Repr

/-- The reception starts, or looks whether it has been asked to stop: the dispatcher's `run_with`
where it asks `is_requested`. -/
def look (r : Reception χ) : Option (Reception χ × List (Event χ)) :=
  match r.phase with
  | .starting => some ({ r with phase := .checking }, [.started])
  | .checking =>
    if r.requested then some ({ r with phase := .over }, [.stopping])
    else some ({ r with phase := .accepting }, [])
  | .judging (.connection c) =>
    if r.requested then some ({ r with phase := .over }, [.turnedAway c, .stopping])
    else some ({ r with phase := .handing c r.nextId, nextId := r.nextId + 1 },
      [.accepted c r.nextId])
  | .judging (.failed f) =>
    if r.requested then some ({ r with phase := .over }, [.stopping])
    else some ({ r with phase := .checking }, [.acceptFailed f])
  | _ => none

/-- The steps of the reception and of those around it: the dispatcher's `run_with` and `dispatch`,
and the stop signal's `request`, which first sets the flag and then connects to wake the
listener. -/
def step (r : Reception χ) : Label χ → Option (Reception χ × List (Event χ))
  | .connect c => some ({ r with backlog := r.backlog ++ [c] }, [])
  | .request h =>
    if r.requested then some (r, [.repeated h])
    else some ({ r with requested := true, waking := true }, [.requested h])
  | .wake result =>
    if r.waking then
      match result with
      | .ok c => some ({ r with waking := false, backlog := r.backlog ++ [c] }, [.woke c])
      | .error f => some ({ r with waking := false }, [.unwoken f])
    else none
  | .look => r.look
  | .accept =>
    match r.phase, r.backlog with
    | .accepting, c :: rest =>
      some ({ r with phase := .judging (.connection c), backlog := rest },
        [.returned (.connection c)])
    | _, _ => none
  | .fail f =>
    match r.phase with
    | .accepting => some ({ r with phase := .judging (.failed f) }, [.returned (.failed f)])
    | _ => none
  | .hand taken =>
    match r.phase with
    | .handing c id =>
      some ({ r with phase := .checking }, [if taken then .handed c id else .refused c id])
    | _ => none

/-! ## What the reception reports -/

/-- A record of the reception. -/
def receptionRecord (level : Journal.Level) (text : String) : Journal.Record :=
  ⟨level, "Dispatcher: " ++ text⟩

/-- A record of the request to stop. -/
def stopRecord (level : Journal.Level) (text : String) : Journal.Record :=
  ⟨level, "StopSignal: " ++ text⟩

/-- The record of an event.  `peer` gives the address of a connection, and `listener` is
where the listener is reached. -/
def Event.record? (peer : χ → String) (listener : Net.Address) :
    Event χ → Option Journal.Record
  | .started => some (receptionRecord .info "Starting")
  | .stopping => some (receptionRecord .info "Stopping")
  | .accepted c id => some (receptionRecord .debug
      ("Accepted " ++ peer c ++ " id=" ++ toString id.toNat))
  | .refused c _ => some (receptionRecord .warn
      ("Worker pool is shutting down, closing connection from " ++ peer c))
  | .turnedAway c => some (receptionRecord .debug
      ("Closing connection from " ++ peer c ++ " accepted during shutdown"))
  | .acceptFailed f => some (receptionRecord .error ("accept() failed: " ++ f.message))
  | .requested _ => some (stopRecord .info "Shutdown requested")
  | .unwoken f => some (stopRecord .debug
      ("Could not wake listener at " ++ listener.wake.render ++ ": " ++ f.message))
  | _ => none

end Reception

end LineService
