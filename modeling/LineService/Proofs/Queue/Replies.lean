import LineService.Proofs.Machine.Latch
import LineService.Proofs.Queue.Order

/-!
# What a queue replies

A queue that is used by many at once replies as one that is used by one participant at a time
would.  `Lawful` says of an event what the events before it must have been for that: a consumer is
handed the first task that was accepted and has not been removed, it falls asleep when there is
none, draining brings all such tasks in their order, and a queue is closed by the first call that
closes it and by no other.  A consumer is dismissed only by a closed queue, so the branch of `take`
for an open queue that has run out of tasks is never taken (`take_of_mustWait_eq_false`).

Every event of every run is lawful (`lawful_of_reaches`).  A closed queue stays closed; it hands
back what it is offered, dismisses whoever comes, and keeps what it holds, in order, until it is
drained (`shut_of_closed`).
-/

set_option autoImplicit false

namespace LineService.Queue

variable {α : Type} {q q' : Queue α} {l : Label α} {es before after : List (Event α)}
  {e : Event α}

/-! ## Calls that close the queue -/

/-- What a call that closes the queue is told. -/
def Event.closing? : Event α → Option Bool
  | .closed first => some first
  | _ => none

/-- What the calls that close the queue have been told, in their order. -/
def closings (es : List (Event α)) : List Bool := es.filterMap Event.closing?

/-- Only the call that closes an open queue changes anything, and it is told so. -/
theorem closings_of_turn (turn : Turn q l q' es) :
    (closings es = [] ∧ q'.closed = q.closed) ∨
      (closings es = [!q.closed] ∧ q'.closed = true) := by
  cases turn with
  | closed opened => exact .inr ⟨by simp [closings, Event.closing?, opened], rfl⟩
  | closedBefore shut => exact .inr ⟨by simp [closings, Event.closing?, shut], shut⟩
  | _ => exact .inl ⟨rfl, rfl⟩

theorem latch_closed : Machine.Latch (step (α := α)) Queue.closed Event.closing? where
  turn taken := closings_of_turn (turn_of_step taken)

theorem mem_closings {first : Bool} : first ∈ closings es ↔ .closed first ∈ es := by
  simp only [closings, List.mem_filterMap]
  constructor
  · rintro ⟨e, there, view⟩
    cases e with
    | closed first =>
        cases view
        exact there
    | _ => cases view
  · exact fun there => ⟨_, there, rfl⟩

/-- A queue is closed when a call has closed it. -/
theorem closed_iff_mem (reached : Machine.Reaches step empty q es) :
    q.closed = true ↔ .closed true ∈ es :=
  (latch_closed.set_iff_mem rfl reached).trans mem_closings

theorem open_iff_not_mem (reached : Machine.Reaches step empty q es) :
    q.closed = false ↔ .closed true ∉ es := by
  rw [← closed_iff_mem reached, Bool.not_eq_true]

/-! ## What an event says about those before it -/

/-- What has happened when a queue that one participant uses at a time replies so. -/
def Lawful (before : List (Event α)) : Event α → Prop
  | .accepted _ => .closed true ∉ before
  | .refused _ => .closed true ∈ before
  | .handed _ a => .closed true ∉ before ∧ ∃ rest, accepted before = removed before ++ a :: rest
  | .dismissed _ => .closed true ∈ before
  | .slept _ => .closed true ∉ before ∧ accepted before = removed before
  | .stirred _ => True
  | .closed first => first = true ↔ .closed true ∉ before
  | .drained as => accepted before = removed before ++ as
  | .measured n => (accepted before).length = (removed before).length + n

/-- One turn of a queue that has come to be what it is by the events `before`. -/
theorem lawful_of_turn (reached : Machine.Reaches step empty q before) (turn : Turn q l q' [e]) :
    Lawful before e := by
  have held := accepted_eq_removed_append_tasks reached
  cases turn with
  | alone _ _ opened | waking _ _ _ opened => exact (open_iff_not_mem reached).mp opened
  | refused _ _ shut | dismissed _ shut => exact (closed_iff_mem reached).mp shut
  | slept _ opened nothing =>
      refine ⟨(open_iff_not_mem reached).mp opened, ?_⟩
      rw [held, nothing, List.append_nil]
  | handed a rest _ opened first =>
      refine ⟨(open_iff_not_mem reached).mp opened, rest, ?_⟩
      rw [held, first]
  | stirred => trivial
  | closed opened => exact ⟨fun _ => (open_iff_not_mem reached).mp opened, fun _ => rfl⟩
  | closedBefore shut =>
      have earlier := (closed_iff_mem reached).mp shut
      exact ⟨nofun, fun never => absurd earlier never⟩
  | drained => exact held
  | measured =>
      change (accepted before).length = (removed before).length + q.tasks.length
      rw [held, List.length_append]

/-- A step of a queue comes to one event. -/
theorem Turn.event (turn : Turn q l q' es) : ∃ e, es = [e] := by
  cases turn <;> exact ⟨_, rfl⟩

/-- **Every reply is the one that the events before it ask for.** -/
theorem lawful_of_reaches (reached : Machine.Reaches step empty q (before ++ e :: after)) :
    Lawful before e := by
  obtain ⟨r, l, r', earlier, taken, -⟩ :=
    reached.at_event fun taken => (turn_of_step taken).event
  exact lawful_of_turn earlier (turn_of_step taken)

/-! ## Taking a task -/

/-- A consumer that need not wait comes away with the first task, unless the queue is closed. -/
theorem take_of_mustWait_eq_false (opened : q.closed = false) (ready : q.mustWait = false) :
    ∃ a rest, q.tasks = a :: rest ∧ q.take = (.task a, { q with tasks := rest }) := by
  cases held : q.tasks with
  | nil => simp [mustWait, held, opened] at ready
  | cons a rest => exact ⟨a, rest, rfl, by simp [take, opened, held]⟩

/-! ## A closed queue -/

/-- A queue at which nothing is to be had any more. -/
structure Shut (q : Queue α) : Prop where
  /-- What is offered is handed back. -/
  refuses (a : α) (pick : Nat) : q.step (.enqueue a pick) = some (q, [.refused a])
  /-- Whoever comes forward leaves with nothing. -/
  dismisses {l : Label α} {k : Nat} (forward : Forward q l k) :
    ∃ q', q.step l = some (q', [.dismissed k]) ∧ q'.tasks = q.tasks
  /-- Whatever happens, the queue stays closed and keeps its tasks, or gives them up all at
  once, in order. -/
  keeps {l : Label α} {q' : Queue α} {es : List (Event α)} (taken : q.step l = some (q', es)) :
    q'.closed = true ∧ (q'.tasks = q.tasks ∨ es = [.drained q.tasks] ∧ q'.tasks = [])

theorem shut_of_closed (shut : q.closed = true) : Shut q where
  refuses a pick := by simp only [step, enqueue_of_closed a pick shut]
  dismisses forward := by
    cases forward with
    | arrive k idle => exact ⟨q, step_arrive_of_closed idle shut, rfl⟩
    | resume k called => exact ⟨_, step_resume_of_closed called shut, rfl⟩
  keeps taken := by
    cases turn_of_step taken with
    | alone _ _ opened | waking _ _ _ opened | slept _ opened | handed _ _ _ opened
    | closed opened => exact absurd (shut.symm.trans opened) (by simp)
    | drained => exact ⟨shut, .inr ⟨rfl, rfl⟩⟩
    | refused | dismissed | stirred | closedBefore | measured => exact ⟨shut, .inl rfl⟩

/-! ## The whole queue -/

/-- **A queue is first in, first out, whoever uses it and in whatever order.**

At any moment the tasks accepted so far are those removed so far, by consumers or by draining, in
the order in which they were, and then those that wait.  Every reply is the one that the events
before it ask for; so after the queue was closed nothing is accepted and nobody is handed a task,
and nobody is dismissed before.  From then on the queue is shut.  The first call that closes the
queue is told so, and all others are told that it was closed.  A consumer at an open queue takes a
task or has to wait. -/
theorem replies_in_order (reached : Machine.Reaches step empty q es) :
    accepted es = removed es ++ q.tasks ∧
      (∀ before e after, es = before ++ e :: after → Lawful before e) ∧
      (.closed true ∈ es → Shut q) ∧
      (∃ n, closings es = if q.closed then true :: List.replicate n false else []) ∧
      (q.closed = false → q.mustWait = false →
        ∃ a rest, q.tasks = a :: rest ∧ q.take = (.task a, { q with tasks := rest })) := by
  refine ⟨accepted_eq_removed_append_tasks reached, fun before e after all => ?_, fun there => ?_,
    latch_closed.told_eq rfl reached, take_of_mustWait_eq_false⟩
  · subst all
    exact lawful_of_reaches reached
  · exact shut_of_closed ((closed_iff_mem reached).mpr there)

/-- A sleeper is woken and finds the second of two tasks, since a newcomer has taken the first.  A
third one is taken out by draining, and a fourth one is left when the queue is closed. -/
theorem replies_in_order_mixed :
    Machine.Reaches step (empty : Queue Nat) ⟨[8], true, [], []⟩
        [.slept 0, .accepted 5, .accepted 6, .handed 1 5, .handed 0 6, .accepted 7, .measured 1,
          .drained [7], .accepted 8, .closed true, .closed false, .refused 9, .dismissed 2] ∧
      Lawful [.slept 0, .accepted 5, .accepted 6] (.handed 1 5) ∧
      Shut (⟨[8], true, [], []⟩ : Queue Nat) := by
  have reached : Machine.Reaches step (empty : Queue Nat) ⟨[8], true, [], []⟩
      [.slept 0, .accepted 5, .accepted 6, .handed 1 5, .handed 0 6, .accepted 7, .measured 1,
        .drained [7], .accepted 8, .closed true, .closed false, .refused 9, .dismissed 2] :=
    Machine.reaches_of_run
      [.arrive 0, .enqueue 5 0, .enqueue 6 0, .arrive 1, .resume 0, .enqueue 7 0, .measure, .drain,
        .enqueue 8 0, .close, .close, .enqueue 9 0, .arrive 2] rfl
  obtain ⟨-, lawful, shut, -⟩ := replies_in_order reached
  exact ⟨reached, lawful _ _ _ rfl, shut (by simp)⟩

end LineService.Queue
