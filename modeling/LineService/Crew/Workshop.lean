import LineService.Crew.Job
import LineService.Crew.Settle

/-!
# A crew at work on jobs

A workshop is a crew whose tasks are jobs, the tally the jobs share, the gates that have
been opened, and a desk for every worker that is carrying out a job.  Here a task ends by
itself, when its job has no act left, so the workshop can be left to run until every
worker is waiting for a task or for a gate.
-/

namespace LineService.Crew

/-- A crew, what its tasks share, and what its workers are carrying out. -/
structure Workshop where
  crew : Crew Job
  tally : Tally
  gates : List String
  /-- The desk of worker `k` stands under `k`. -/
  desks : List (Nat × Desk)

namespace Workshop

/-- A workshop whose crew has just been founded. -/
def new (crew : Crew Job) : Workshop := ⟨crew, .zero, [], []⟩

/-- What happens in a workshop. -/
inductive Label where
  | crew (l : Crew.Label Job)
  | openGate (gate : String)
  /-- Worker `k` performs the next act of its job. -/
  | work (k : Nat)

/-- Worker `k` takes its place at a desk for every job it has been handed. -/
def seat (desks : List (Nat × Desk)) : Event Job → List (Nat × Desk)
  | .queue (.handed k job) => (k, ⟨job.acts, false⟩) :: desks
  | _ => desks

/-- A step of the crew. -/
def crewStep (w : Workshop) (l : Crew.Label Job) : Option (Workshop × List (Event Job)) :=
  (w.crew.step l).map fun r =>
    ({ w with crew := r.1, desks := r.2.foldl seat w.desks }, r.2)

/-- The steps of a workshop.  A worker finishes when its job does, and in no other way. -/
def step (w : Workshop) : Label → Option (Workshop × List (Event Job))
  | .crew (.finish ..) => none
  | .crew l => w.crewStep l
  | .openGate gate => some ({ w with gates := gate :: w.gates }, [])
  | .work k =>
    match w.desks.lookup k with
    | none => none
    | some desk =>
      match desk.turn w.gates.contains w.tally with
      | none => none
      | some (tally, .inl desk) =>
        some ({ w with tally := tally, desks := (k, desk) :: w.desks.filter (·.1 != k) }, [])
      | some (tally, .inr outcome) =>
        { w with tally := tally, desks := w.desks.filter (·.1 != k) }.crewStep
          (.finish k outcome)

/-- A worker that can perform an act, the first by number. -/
def nextWork (w : Workshop) : Option Label :=
  ((List.range w.crew.workers.length).find? fun k =>
    (w.desks.lookup k).any fun desk => (desk.turn w.gates.contains w.tally).isSome).map .work

/-- A step that is taken without anything happening outside the workshop. -/
def nextTurn (w : Workshop) : Option Label :=
  match w.nextWork with
  | some l => some l
  | none => w.crew.nextTurn.map .crew

/-- The acts of a job and its handing over and end. -/
def jobWeight (acts : List Act) : Nat := acts.length + 4

/-- More steps than a workshop can take by itself. -/
def stepBound (w : Workshop) : Nat :=
  (w.crew.queue.tasks.map fun job => jobWeight job.acts).foldr (· + ·) 0 +
    (w.desks.map fun d => jobWeight d.2.left).foldr (· + ·) 0 + w.crew.stepBound

/-- Lets a workshop run until it rests. -/
def settle (w : Workshop) : Workshop × List (Event Job) :=
  Machine.settle step nextTurn w.stepBound w

/-- Takes a step and lets the workshop run until it rests. -/
def stepAndSettle (w : Workshop) (l : Label) : Workshop × List (Event Job) :=
  match w.step l with
  | none => (w, [])
  | some (w, es) => (w.settle.1, es ++ w.settle.2)

end Workshop

end LineService.Crew
