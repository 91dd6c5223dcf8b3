import LineService.Crew.Basic
import LineService.Tally.Basic

/-!
# Jobs that share a tally

A job is a task written down: acts that a worker performs one after the other.  A job
may enter the tally, and is then counted until it is over, whichever way it ends; it may
change the tally; it may wait for a gate to be opened; and it may come to grief.  A
fault of the tally is a grief like any other.
-/

namespace LineService.Crew

/-- One act of a job. -/
inductive Act where
  /-- Is counted from here on. -/
  | enter
  | increment
  | decrement
  /-- Goes on only when the gate is open. -/
  | await (gate : String)
  | fail (payload : Payload)
  deriving DecidableEq, Repr

/-- A task written down. -/
structure Job where
  id : String
  acts : List Act
  deriving DecidableEq, Repr

/-- A job that a worker is carrying out. -/
structure Desk where
  left : List Act
  /-- The job is being counted. -/
  counted : Bool
  deriving DecidableEq, Repr

/-- The grief of a job that a fault of the tally brought down. -/
def griefOf (f : Tally.Fault) : Outcome := .panicked (.text f.message)

/-- The end of a job.  One that is counted is counted out; that it cannot be is a grief
of its own, if there is no other yet. -/
def Desk.conclude (d : Desk) (t : Tally) (outcome : Outcome) : Tally × Outcome :=
  if d.counted then
    match t.decrement, outcome with
    | (.ok (), t'), o => (t', o)
    | (.error f, t'), .returned => (t', griefOf f)
    | (.error _, t'), o => (t', o)
  else (t, outcome)

/-- The next act of a job: the desk after it, or the outcome; none while the job has to
wait for a gate. -/
def Desk.turn (isOpen : String → Bool) (d : Desk) (t : Tally) :
    Option (Tally × (Desk ⊕ Outcome)) :=
  let finish (t : Tally) (o : Outcome) : Tally × (Desk ⊕ Outcome) :=
    let r := d.conclude t o
    (r.1, .inr r.2)
  match d.left with
  | [] => some (finish t .returned)
  | .enter :: rest =>
    match t.increment with
    | (.ok (), t') => some (t', .inl ⟨rest, true⟩)
    | (.error f, t') => some (finish t' (griefOf f))
  | .increment :: rest =>
    match t.increment with
    | (.ok (), t') => some (t', .inl { d with left := rest })
    | (.error f, t') => some (finish t' (griefOf f))
  | .decrement :: rest =>
    match t.decrement with
    | (.ok (), t') => some (t', .inl { d with left := rest })
    | (.error f, t') => some (finish t' (griefOf f))
  | .await gate :: rest => if isOpen gate then some (t, .inl { d with left := rest }) else none
  | .fail p :: _ => some (finish t (.panicked p))

end LineService.Crew
