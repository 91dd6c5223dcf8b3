import LineService.Proofs.Crew.Admission
import LineService.Proofs.Queue.Replies

/-!
# Griefs cost no worker

A worker leaves a crew by being dismissed and in no other way (`History.exited_iff`), and the
queue dismisses nobody before it is closed (`History.closed_before_dismissed`).  Until then all
workers that have been started are there (`History.staffed`).

How a task ends is told by a label and told on by an event, and no step looks at it.
`Label.calm` and `Event.calm` tell of every task that it returned; a crew takes the same step
when it is told so (`step_calm`).  Two runs whose labels differ in how tasks end therefore lead
to the same crew, and what has happened in them differs in nothing else (`exists_run_of_alike`).
It comes to the same work (`SameWork.of_alike`), and all that is reported otherwise are griefs.
-/

set_option autoImplicit false

namespace LineService.Crew

variable {α : Type} {c d : Crew α} {n : Nat} {l : Label α} {es fs : List (Event α)}

/-! ## Workers that are there -/

/-- The workers that have gone after a step are those that had gone and the one it dismissed. -/
theorem exited_of_turn (turn : Turn c l d fs) (k : Nat) :
    d.workers[k]? = some .exited ↔
      c.workers[k]? = some .exited ∨ .queue (.dismissed k) ∈ fs := by
  cases turn with
  | spawned fresh room => simp [getElem?_concat_asking]
  | slept q comes looked =>
      obtain ⟨v, here, present, -⟩ := comes.worker
      simp [exited_set_iff here present]
  | handed a q comes looked =>
      obtain ⟨v, here, present, -⟩ := comes.worker
      simp [exited_set_iff here present]
  | dismissed q comes looked =>
      obtain ⟨v, here, present, -⟩ := comes.worker
      simp [exited_set_iff here present]
  | stirred j q waiting woke => simp [exited_set_iff waiting]
  | finished j task outcome busy => simp [exited_set_iff busy]
  | _ => simp

/-- **A worker has gone when it has been dismissed.** -/
theorem History.exited_iff (history : History n c es) (k : Nat) :
    c.workers[k]? = some .exited ↔ .queue (.dismissed k) ∈ es := by
  induction history using History.induct with
  | start => simp
  | next _ turn _ ih => rw [exited_of_turn turn, ih, List.mem_append]

theorem mem_atQueueEvents {e : Queue.Event α} : e ∈ atQueueEvents es ↔ .queue e ∈ es := by
  rw [atQueueEvents, List.mem_filterMap]
  constructor
  · rintro ⟨f, there, view⟩
    cases f with
    | queue f =>
        cases view
        exact there
    | _ => cases view
  · exact fun there => ⟨_, there, rfl⟩

/-- Nobody is dismissed before the queue has been closed. -/
theorem History.closed_before_dismissed {k : Nat} {before after : List (Event α)}
    (history : History n c (before ++ .queue (.dismissed k) :: after)) :
    .queue (.closed true) ∈ before := by
  have reached := history.queue
  rw [atQueueEvents_append] at reached
  -- A crew's queue replies as any other does, so it has been closed by then.
  have lawful : Queue.Lawful (atQueueEvents before) (.dismissed k) :=
    Queue.lawful_of_reaches reached
  exact mem_atQueueEvents.mp lawful

/-- While the queue is open no worker has gone. -/
theorem History.not_exited_of_open (history : History n c es)
    (opened : c.queue.closed = false) (k : Nat) : c.workers[k]? ≠ some .exited := by
  intro gone
  obtain ⟨before, after, rfl⟩ := List.append_of_mem ((history.exited_iff k).mp gone)
  have shut := history.closed_iff.mp (List.mem_append_left _ history.closed_before_dismissed)
  exact absurd (opened.symm.trans shut) (by simp)

/-- A crew that has been handed over has all its workers. -/
theorem History.length_eq_of_ready (history : History n c es) (ready : c.ready = true) :
    c.workers.length = n := by
  induction history using History.induct with
  | start => cases ready
  | next before turn _ ih =>
      cases turn with
      | spawned fresh room =>
          obtain ⟨-, -, -, unready⟩ := before.standing.of_created fresh
          exact absurd (ready.symm.trans unready) (by simp)
      | handedOver fresh full => exact full.trans before.length_le.1
      | slept | handed | dismissed | stirred | finished =>
          rw [List.length_set]
          exact ih ready
      | _ => exact ih ready

/-- The workers that have been started are there, and in a crew that has been handed over
these are all: each asks for a task or carries one out. -/
structure Staffed (n : Nat) (c : Crew α) : Prop where
  full : c.ready = true → c.workers.length = n
  there : ∀ w ∈ c.workers, w = .asking ∨ w = .waiting ∨ ∃ task, w = .busy task

/-- **While the queue is open, all workers are there.** -/
theorem History.staffed (history : History n c es) (opened : c.queue.closed = false) :
    Staffed n c where
  full := history.length_eq_of_ready
  there := by
    intro w member
    obtain ⟨k, here⟩ := List.getElem?_of_mem member
    cases w with
    | asking => exact .inl rfl
    | waiting => exact .inr (.inl rfl)
    | busy task => exact .inr (.inr ⟨task, rfl⟩)
    | exited => exact absurd here (history.not_exited_of_open opened k)

/-! ## How tasks end -/

/-- The step as it is when a task that ends has returned. -/
def Label.calm : Label α → Label α
  | .finish k _ => .finish k .returned
  | l => l

/-- The event as it is when tasks end as `f` says. -/
def Event.ending (f : α → Outcome) : Event α → Event α
  | .finished k task _ => .finished k task (f task)
  | e => e

/-- The event as it is when tasks return. -/
def Event.calm : Event α → Event α := Event.ending fun _ => .returned

/-- A worker comes to the end of its task, and asks for the next one, whatever that end is. -/
theorem step_finish (c : Crew α) (k : Nat) (outcome : Outcome) :
    c.step (.finish k outcome) = (c.workers[k]?.bind Worker.task?).map fun task =>
      ({ c with workers := c.workers.set k .asking }, [.finished k task outcome]) := by
  simp only [step]
  split
  · rename_i task busy
    simp [busy, Worker.task?]
  · rename_i idle
    cases here : c.workers[k]? with
    | none => rfl
    | some w =>
        cases w with
        | busy task => exact absurd here (idle task)
        | _ => rfl

/-- Where no task ends there is nothing to tell otherwise. -/
theorem map_ending_of_turn (f : α → Outcome) (turn : Turn c l d fs)
    (other : ∀ k outcome, l ≠ .finish k outcome) : fs.map (Event.ending f) = fs := by
  cases turn with
  | finished k task outcome => exact absurd rfl (other k outcome)
  | _ => rfl

theorem Label.calm_of_ne (other : ∀ k outcome, l ≠ .finish k outcome) : l.calm = l := by
  cases l with
  | finish k outcome => exact absurd rfl (other k outcome)
  | _ => rfl

/-- **No step looks at how a task ends.** -/
theorem step_calm (c : Crew α) (l : Label α) :
    c.step l.calm = (c.step l).map fun r => (r.1, r.2.map Event.calm) := by
  by_cases ends : ∃ k outcome, l = .finish k outcome
  · obtain ⟨k, outcome, rfl⟩ := ends
    rw [Label.calm, step_finish, step_finish, Option.map_map]
    rfl
  · simp only [not_exists] at ends
    rw [Label.calm_of_ne ends]
    cases taken : c.step l with
    | none => rfl
    | some r => simp [Event.calm, map_ending_of_turn _ (turn_of_step taken) ends]

/-- A step at which a task ends can be taken as well when it ends otherwise. -/
theorem exists_step_ending (f : α → Outcome) (taken : c.step l = some (d, fs)) :
    ∃ l' : Label α, l'.calm = l.calm ∧ c.step l' = some (d, fs.map (Event.ending f)) := by
  by_cases ends : ∃ k outcome, l = .finish k outcome
  · obtain ⟨k, outcome, rfl⟩ := ends
    rw [step_finish] at taken
    obtain ⟨task, busy, same⟩ := Option.map_eq_some_iff.mp taken
    cases same
    refine ⟨.finish k (f task), rfl, ?_⟩
    rw [step_finish, busy]
    rfl
  · simp only [not_exists] at ends
    refine ⟨l, rfl, ?_⟩
    rw [taken, map_ending_of_turn f (turn_of_step taken) ends]

/-! ## Two runs -/

/-- Runs whose labels differ in how tasks end lead to the same crew, and what happens in them
differs in nothing else. -/
theorem exists_run_of_alike {ls ls' : List (Label α)}
    (ran : Machine.run step c ls = some (d, es)) (alike : ls'.map Label.calm = ls.map Label.calm) :
    ∃ es', Machine.run step c ls' = some (d, es') ∧
      es'.map Event.calm = es.map Event.calm := by
  have calm : (Machine.run step c ls').map (fun r => (r.1, r.2.map Event.calm)) =
      some (d, es.map Event.calm) := by
    rw [← Machine.run_map step_calm, alike, Machine.run_map step_calm, ran]
    rfl
  obtain ⟨⟨d', es'⟩, ran', same⟩ := Option.map_eq_some_iff.mp calm
  obtain ⟨sameCrew, sameEvents⟩ := Prod.mk.inj same
  cases sameCrew
  exact ⟨es', ran', sameEvents⟩

/-- What is reported of events, but for errors. -/
def undisturbed (es : List (Event α)) : List Journal.Record :=
  (es.flatMap Event.records).filter fun r => r.level ≠ .error

/-- The same tasks are accepted, refused, released, handed to the same workers and run to
their end by them, each in the same order, and only errors are reported otherwise. -/
structure SameWork (es fs : List (Event α)) : Prop where
  accepted : accepted fs = accepted es
  refused : refused fs = refused es
  released : released fs = released es
  handed : handed fs = handed es
  finished : finished fs = finished es
  undisturbed : undisturbed fs = undisturbed es

section Ending

variable (f : α → Outcome) (es : List (Event α))

theorem atQueueEvents_map_ending : atQueueEvents (es.map (Event.ending f)) = atQueueEvents es := by
  rw [atQueueEvents, List.filterMap_map]
  congr 1
  funext e
  cases e <;> rfl

theorem finished_map_ending : finished (es.map (Event.ending f)) = finished es := by
  rw [finished, List.filterMap_map]
  congr 1
  funext e
  cases e <;> rfl

/-- All that is reported of the end of a task is an error. -/
theorem undisturbed_map_ending :
    undisturbed (es.map (Event.ending f)) = undisturbed es := by
  have one : ∀ e : Event α, (e.ending f).records.filter (fun r => r.level ≠ .error) =
      e.records.filter fun r => r.level ≠ .error := by
    intro e
    cases e with
    | finished k task outcome =>
        have silent : ∀ o : Outcome, ((Event.finished k task o).records.filter
            fun r => r.level ≠ .error) = [] := by
          intro o
          cases o <;> rfl
        exact (silent (f task)).trans (silent outcome).symm
    | _ => rfl
  simp only [undisturbed, List.filter_flatMap, List.flatMap_map, one]

end Ending

/-- However tasks end, it comes to the same work. -/
theorem sameWork_map_ending (f : α → Outcome) (es : List (Event α)) :
    SameWork es (es.map (Event.ending f)) := by
  have queue := atQueueEvents_map_ending f es
  refine ⟨?_, ?_, ?_, ?_, finished_map_ending f es, undisturbed_map_ending f es⟩
  · rw [accepted, queue, ← accepted]
  · rw [refused, queue, ← refused]
  · rw [released, queue, ← released]
  · rw [handed, queue, ← handed]

/-- **The same work.**  What has happened comes to the same work when it differs in nothing
but how tasks end. -/
theorem SameWork.of_alike (alike : fs.map Event.calm = es.map Event.calm) : SameWork es fs := by
  have left := sameWork_map_ending (fun _ => .returned) es
  have right := sameWork_map_ending (fun _ => .returned) fs
  change SameWork es (es.map Event.calm) at left
  change SameWork fs (fs.map Event.calm) at right
  rw [alike] at right
  exact ⟨right.accepted.symm.trans left.accepted, right.refused.symm.trans left.refused,
    right.released.symm.trans left.released, right.handed.symm.trans left.handed,
    right.finished.symm.trans left.finished, right.undisturbed.symm.trans left.undisturbed⟩

/-- **Griefs cost no worker.**  Whatever the size of a crew, however its tasks end and in
whatever order everybody takes their steps:

* while the queue is open all workers are there, each asking for a task or carrying one out;
* a worker goes when it has been dismissed and at no other time, and nobody is dismissed
  before the queue has been closed;
* a worker that comes to the end of a task, whatever that end is, asks for the next one, and
  the crew is the same as if the task had ended otherwise;
* the same steps with other ends of tasks are a run, which leads to the same crew, comes to the
  same work and differs in nothing but how tasks end;
* there is such a run for every way in which tasks may end. -/
theorem griefs_cost_no_worker {c₀ : Crew α} (founded : Crew.new n = .ok c₀) {ls : List (Label α)}
    (ran : Machine.run step c₀ ls = some (c, es)) :
    (c.queue.closed = false → Staffed n c) ∧
      (∀ k, c.workers[k]? = some .exited ↔ .queue (.dismissed k) ∈ es) ∧
      (∀ before k after, es = before ++ .queue (.dismissed k) :: after →
        .queue (.closed true) ∈ before) ∧
      (∀ (k : Nat) (task : α), c.workers[k]? = some (.busy task) →
        ∃ d, d.workers[k]? = some .asking ∧ ∀ outcome,
          c.step (.finish k outcome) = some (d, [.finished k task outcome])) ∧
      (∀ ls', ls'.map Label.calm = ls.map Label.calm →
        ∃ es', Machine.run step c₀ ls' = some (c, es') ∧
          es'.map Event.calm = es.map Event.calm ∧ SameWork es es') ∧
      (∀ f : α → Outcome, ∃ ls', ls'.map Label.calm = ls.map Label.calm ∧
        Machine.run step c₀ ls' = some (c, es.map (Event.ending f))) := by
  have history : History n c es := ⟨c₀, founded, Machine.reaches_of_run ls ran⟩
  refine ⟨history.staffed, history.exited_iff, ?_, ?_, ?_, ?_⟩
  · rintro before k after rfl
    exact history.closed_before_dismissed
  · intro k task busy
    have less : k < c.workers.length := (List.getElem?_eq_some_iff.mp busy).1
    refine ⟨{ c with workers := c.workers.set k .asking }, by simp [less], fun outcome => ?_⟩
    rw [step_finish, busy]
    rfl
  · intro ls' alike
    obtain ⟨es', ran', same⟩ := exists_run_of_alike ran alike
    exact ⟨es', ran', same, SameWork.of_alike same⟩
  · exact fun f => Machine.exists_run_of_map (fun taken => exists_step_ending f taken) ran

/-- A single worker is handed a second task after the first one has come to grief, as it is in
the run in which that one has returned. -/
theorem griefs_cost_no_worker_single :
    ∃ (c : Crew Nat) (es fs : List (Event Nat)),
      Machine.run step ⟨1, .created, false, .empty, [], none⟩
          [.spawn (.ok ()), .handOver, .submit 5 0, .submit 6 0, .ask 0,
            .finish 0 (.panicked (.text "boom")), .ask 0] = some (c, es) ∧
      Machine.run step ⟨1, .created, false, .empty, [], none⟩
          [.spawn (.ok ()), .handOver, .submit 5 0, .submit 6 0, .ask 0,
            .finish 0 .returned, .ask 0] = some (c, fs) ∧
      Staffed 1 c ∧ c.workers = [.busy 6] ∧ SameWork es fs ∧
      .finished 0 5 (.panicked (.text "boom")) ∈ es ∧ .finished 0 5 .returned ∈ fs := by
  have grieved : Machine.run step (⟨1, .created, false, .empty, [], none⟩ : Crew Nat)
      [.spawn (.ok ()), .handOver, .submit 5 0, .submit 6 0, .ask 0,
        .finish 0 (.panicked (.text "boom")), .ask 0] =
      some (⟨1, .running, true, .empty, [.busy 6], none⟩,
        [.spawned 0, .handedOver 1, .queue (.accepted 5), .queue (.accepted 6),
          .queue (.handed 0 5), .finished 0 5 (.panicked (.text "boom")),
          .queue (.handed 0 6)]) := rfl
  obtain ⟨staffed, -, -, -, otherwise, -⟩ := griefs_cost_no_worker (n := 1) rfl grieved
  obtain ⟨fs, returned, -, same⟩ := otherwise
    [.spawn (.ok ()), .handOver, .submit 5 0, .submit 6 0, .ask 0, .finish 0 .returned, .ask 0] rfl
  refine ⟨_, _, fs, grieved, returned, staffed rfl, rfl, same, by simp, ?_⟩
  cases returned
  simp

end LineService.Crew
