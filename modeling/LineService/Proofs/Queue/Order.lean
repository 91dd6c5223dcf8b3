import LineService.Proofs.Machine.Runs
import LineService.Proofs.Queue.Turns

/-!
# A queue hands out what it takes, in order

The views below read off a list of events which tasks were accepted, which were refused,
which were handed out and to whom, and which were taken out all at once.

What a step accepts goes to the end of the queue and what it removes comes from the front
(`Turn.balance`).  Hence at any moment the tasks accepted so far are those removed so far,
followed by those that are still waiting (`accepted_eq_removed_append_tasks`), whoever
removed them.
-/

set_option autoImplicit false

namespace LineService.Queue

variable {α : Type} {q q' : Queue α}

/-! ## Views of what has happened -/

def Event.accepted? : Event α → Option α
  | .accepted a => some a
  | _ => none

def Event.refused? : Event α → Option α
  | .refused a => some a
  | _ => none

def Event.handed? : Event α → Option (Nat × α)
  | .handed k a => some (k, a)
  | _ => none

/-- What an event takes out without handing it to a consumer. -/
def Event.drainedTasks : Event α → List α
  | .drained as => as
  | _ => []

/-- What an event takes out of the queue. -/
def Event.removedTasks : Event α → List α
  | .handed _ a => [a]
  | .drained as => as
  | _ => []

/-- The tasks that were accepted, in the order in which they were appended. -/
def accepted (es : List (Event α)) : List α := es.filterMap Event.accepted?

/-- The tasks that were handed back. -/
def refused (es : List (Event α)) : List α := es.filterMap Event.refused?

/-- The tasks that were handed out, each with the consumer that took it. -/
def handed (es : List (Event α)) : List (Nat × α) := es.filterMap Event.handed?

/-- The tasks that were taken out without being handed to anybody. -/
def drained (es : List (Event α)) : List α := es.flatMap Event.drainedTasks

/-- The tasks that were taken out, in the order in which they were. -/
def removed (es : List (Event α)) : List α := es.flatMap Event.removedTasks

section Append

variable (es fs : List (Event α))

@[simp] theorem accepted_append : accepted (es ++ fs) = accepted es ++ accepted fs :=
  List.filterMap_append

@[simp] theorem refused_append : refused (es ++ fs) = refused es ++ refused fs :=
  List.filterMap_append

@[simp] theorem handed_append : handed (es ++ fs) = handed es ++ handed fs :=
  List.filterMap_append

@[simp] theorem drained_append : drained (es ++ fs) = drained es ++ drained fs :=
  List.flatMap_append

@[simp] theorem removed_append : removed (es ++ fs) = removed es ++ removed fs :=
  List.flatMap_append

end Append

/-! ## First in, first out -/

/-- What a step accepts it appends, and what it removes it takes from the front. -/
theorem Turn.balance {l : Label α} {es : List (Event α)} (turn : Turn q l q' es) :
    q.tasks ++ accepted es = removed es ++ q'.tasks := by
  cases turn with
  | handed a rest forward opened first =>
      simp [accepted, removed, Event.accepted?, Event.removedTasks, first]
  | _ => simp [accepted, removed, Event.accepted?, Event.removedTasks]

/-- **First in, first out.**  The tasks accepted so far are those removed so far, in the
order in which they were removed, followed by those that wait. -/
theorem accepted_eq_removed_append_tasks {es : List (Event α)}
    (reached : Machine.Reaches step empty q es) : accepted es = removed es ++ q.tasks := by
  induction reached with
  | refl => rfl
  | @tail q q' es fs l _ taken ih =>
      have balance := (turn_of_step taken).balance
      calc accepted (es ++ fs) = removed es ++ (q.tasks ++ accepted fs) := by
            rw [accepted_append, ih, List.append_assoc]
        _ = removed (es ++ fs) ++ q'.tasks := by
            rw [balance, removed_append, List.append_assoc]

end LineService.Queue
