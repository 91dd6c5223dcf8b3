import LineService.Crew.Basic

/-!
# Running a crew until it rests

`nextTurn` picks a step that some worker or the closing call can take by itself: a worker
that wants to ask, then a worker that has been woken, then the closing call.  A crew rests
when there is none, that is, when every worker is waiting, at work or gone.
-/

namespace LineService.Crew

variable {α : Type}

/-- The first worker that is about to ask. -/
def firstAsking (c : Crew α) : Option Nat :=
  c.workers.findIdx? fun w => match w with
    | .asking => true
    | _ => false

/-- A step that is taken without anything happening outside the crew. -/
def nextTurn (c : Crew α) : Option (Label α) :=
  match c.firstAsking with
  | some k => some (.ask k)
  | none =>
    match c.queue.woken with
    | k :: _ => some (.resume k)
    | [] => if c.advance.isSome then some .advance else none

/-- More steps than a crew can take by itself: every worker asks once, is woken once and
waited for once, and the closing call has four steps of its own. -/
def stepBound (c : Crew α) : Nat := 4 * c.workers.length + 8

/-- Lets a crew run until it rests. -/
def settle (c : Crew α) : Crew α × List (Event α) :=
  Machine.settle step nextTurn c.stepBound c

/-- Takes a step and lets the crew run until it rests. -/
def stepAndSettle (c : Crew α) (l : Label α) : Option (Crew α × List (Event α)) :=
  (c.step l).map fun r => (r.1.settle.1, r.2 ++ r.1.settle.2)

/-! ## Founding -/

/-- Starts workers, at most `n` of them, with a spawner that says of each whether it
starts, until one does not. -/
def spawnAll (spawner : Nat → Except Net.Fault Unit) :
    (n : Nat) → Crew α → Crew α × List (Event α)
  | 0, c => (c, [])
  | n + 1, c =>
    match c.step (.spawn (spawner c.workers.length)) with
    | none => (c, [])
    | some (d, es) =>
      let r := spawnAll spawner n d
      (r.1, es ++ r.2)

/-- What founding a crew comes to. -/
structure Founding (α : Type) where
  result : Except FoundingError (Crew α)
  /-- The crew as founding leaves it, also where it has failed. -/
  left : Option (Crew α)
  events : List (Event α)

/-- Founds a crew, as the worker pool's `with_spawner` does.  The crew is at rest when it is
handed over.  When a worker cannot be started, founding fails only after those before it have gone
home. -/
def found (size : Nat) (spawner : Nat → Except Net.Fault Unit) : Founding α :=
  match new size with
  | .error e => ⟨.error e, none, []⟩
  | .ok c =>
    let spawned := spawnAll spawner size c
    match spawned.1.closer with
    | some (.founder k f, _) =>
      let closed := spawned.1.settle
      ⟨.error (.workerFailed k f), some closed.1, spawned.2 ++ closed.2⟩
    | _ =>
      let opened := (spawned.1.stepAndSettle .handOver).getD (spawned.1, [])
      ⟨.ok opened.1, some opened.1, spawned.2 ++ opened.2⟩

/-- Shuts a crew down, as far as that is possible without anything happening outside: the worker
pool's `shutdown`. -/
def shutDown (c : Crew α) (caller : Nat) : Crew α × List (Event α) :=
  (c.stepAndSettle (.shutdown caller)).getD (c, [])

end LineService.Crew
