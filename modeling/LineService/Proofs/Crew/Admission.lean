import LineService.Proofs.Crew.Shutdown

/-!
# Tasks that come late

Two marks say that a crew is being shut down.  The call that is heeded first changes the life
of the crew, and closes the queue in a step of its own.  Other calls look at the life, and
return at once when it has changed; a task that is submitted looks at the queue, and is
accepted as long as that is open.

So a call can have returned while tasks are still accepted (`history_of_two_calls`).  It is so
for as long as whoever is in charge is about to close the queue (`History.closing_of_open`),
and never again once the queue is closed (`History.closed_iff`, `step_submit_of_closed`).
-/

set_option autoImplicit false

namespace LineService.Crew

variable {α : Type} {c d : Crew α} {n : Nat} {es : List (Event α)}

/-! ## A task that is submitted -/

theorem step_submit_of_closed (usable : c.ready = true) (shut : c.queue.closed = true) (task : α)
    (pick : Nat) : c.step (.submit task pick) = some (c, [.queue (.refused task)]) := by
  simp only [step, if_pos usable, Queue.enqueue_of_closed task pick shut]

theorem step_submit_of_open (usable : c.ready = true) (opened : c.queue.closed = false) (task : α)
    (pick : Nat) : ∃ d, c.step (.submit task pick) = some (d, [.queue (.accepted task)]) ∧
      d.queue.tasks = c.queue.tasks ++ [task] := by
  have taken : ∃ d, c.step (.submit task pick) = some (d, [.queue (.accepted task)]) := by
    simp [step, usable, Queue.enqueue_of_open task pick opened]
  obtain ⟨d, taken⟩ := taken
  rcases submit_cases taken with ⟨-, -, last⟩ | ⟨shut, -⟩
  · exact ⟨d, taken, last⟩
  · exact absurd (opened.symm.trans shut) (by simp)

/-- A crew that has been handed over can be used for ever. -/
theorem ready_of_reaches (usable : c.ready = true) {fs : List (Event α)}
    (reached : Machine.Reaches step c d fs) : d.ready = true := by
  induction reached with
  | refl => exact usable
  | tail _ taken ih =>
      cases turn_of_step taken with
      | handedOver => rfl
      | _ => exact ih

/-! ## A call that has returned -/

theorem mem_of_mem_performed {e : Event α} (member : e ∈ performed es) : e ∈ es :=
  (List.mem_filter.mp member).1

/-- No call returns before a shutdown has begun. -/
theorem History.signalled_of_returned (history : History n c es) {who : Closer}
    (back : .returned who ∈ es) : .signalled ∈ performed es := by
  induction history using History.induct with
  | start => cases back
  | next before turn _ ih =>
      rw [performed_append]
      refine List.mem_append_left _ ?_
      rcases List.mem_append.mp back with earlier | now
      · exact ih earlier
      · refine before.standing.begun_iff.mpr ?_
        cases turn with
        | returned _ late => exact late
        | ended _ stage => exact .inl (before.standing.of_ending stage).2.1
        | _ => simp at now

/-- The queue is closed when its closing has come to pass. -/
theorem History.closed_iff (history : History n c es) :
    .queue (.closed true) ∈ es ↔ c.queue.closed = true := by
  rw [← history.standing.closed_iff]
  exact ⟨fun member => List.mem_filter.mpr ⟨member, rfl⟩, mem_of_mem_performed⟩

/-- While the queue is open after a call has returned, whoever is in charge is about to close
it. -/
theorem History.closing_of_open (history : History n c es) {who : Closer}
    (back : .returned who ∈ es) (opened : c.queue.closed = false) :
    ∃ first, c.closer = some (first, .closing) := by
  rcases history.standing.of_open opened with ⟨nothing, -⟩ | ⟨-, -, charge⟩
  · have begun := history.signalled_of_returned back
    rw [nothing] at begun
    cases begun
  · exact charge

/-- A second call can return when the first has been heeded and the queue is still open. -/
theorem history_of_two_calls : History 1
    (⟨1, .shuttingDown, true, .empty, [.asking], some (.caller 0, .closing)⟩ : Crew Nat)
    [.spawned 0, .handedOver 1, .signalled, .returned (.caller 1)] :=
  ⟨_, rfl, Machine.reaches_of_run [.spawn (.ok ()), .handOver, .shutdown 0, .shutdown 1] rfl⟩

/-- **After a call has returned.**  Once a call that shuts a crew down has returned, a task
that is submitted is handed back exactly if the queue has been closed by then:

* the queue is still open exactly while whoever is in charge is about to close it, and the
  task is then accepted as any other;
* it has been closed when the call in charge has brought the shutdown to its end;
* once it has been closed, every task is handed back for ever. -/
theorem submit_after_return (history : History n c es) {who : Nat}
    (back : .returned (.caller who) ∈ es) (usable : c.ready = true) (task : α) (pick : Nat) :
    (c.step (.submit task pick) = some (c, [.queue (.refused task)]) ↔
        .queue (.closed true) ∈ es) ∧
      (.queue (.closed true) ∉ es ↔ ∃ first, c.closer = some (first, .closing)) ∧
      (.queue (.closed true) ∉ es → ∃ d,
        c.step (.submit task pick) = some (d, [.queue (.accepted task)]) ∧
          d.queue.tasks = c.queue.tasks ++ [task]) ∧
      (.stopped ∈ es → .queue (.closed true) ∈ es) ∧
      (.queue (.closed true) ∈ es → ∀ d fs, Machine.Reaches step c d fs →
        d.step (.submit task pick) = some (d, [.queue (.refused task)])) := by
  rw [history.closed_iff, Bool.not_eq_true]
  refine ⟨⟨fun taken => ?_, fun shut => step_submit_of_closed usable shut task pick⟩,
    ⟨history.closing_of_open back, fun ⟨_, charge⟩ => (history.standing.of_closing charge).2.2⟩,
    fun opened => step_submit_of_open usable opened task pick, ?_, ?_⟩
  · rcases submit_cases taken with ⟨-, accepted, -⟩ | ⟨shut, -⟩
    · cases accepted
    · exact shut
  · intro stopped
    have ended := history.standing.stopped_iff.mp (List.mem_filter.mpr ⟨stopped, rfl⟩)
    exact (history.standing.of_terminated ended).2.1
  · intro shut d fs reached
    have later := history.trans reached
    have still := later.closed_iff.mp (List.mem_append_left _ (history.closed_iff.mpr shut))
    exact step_submit_of_closed (ready_of_reaches usable reached) still task pick

/-- When a second call has returned, a task is accepted that is submitted before the first call
has closed the queue, and one that is submitted afterwards is handed back. -/
theorem submit_after_return_two_calls :
    ∃ (b c : Crew Nat) (es fs : List (Event Nat)), History 1 b es ∧ History 1 c (es ++ fs) ∧
      .returned (.caller 1) ∈ es ∧
      (∃ d, b.step (.submit 5 0) = some (d, [.queue (.accepted 5)]) ∧ d.queue.tasks = [5]) ∧
      c.step (.submit 6 0) = some (c, [.queue (.refused 6)]) := by
  have heeded := history_of_two_calls
  have shut : History 1
      (⟨1, .shuttingDown, true, ⟨[5], true, [], []⟩, [.asking], some (.caller 0, .joining 0)⟩ :
        Crew Nat)
      (_ ++ [.queue (.accepted 5), .queue (.closed true)]) :=
    heeded.trans (Machine.reaches_of_run [.submit 5 0, .advance] rfl)
  have back : Event.returned (.caller 1) ∈
      ([.spawned 0, .handedOver 1, .signalled, .returned (.caller 1)] : List (Event Nat)) := by
    simp
  obtain ⟨-, -, accepted, -⟩ := submit_after_return heeded back rfl 5 0
  obtain ⟨refused, -⟩ := submit_after_return shut (List.mem_append_left _ back) rfl 6 0
  exact ⟨_, _, _, _, heeded, shut, back, accepted (by simp), refused.mpr (by simp)⟩

/-- A call of shutdown may have returned, and yet a task that is submitted after it is not
handed back. -/
theorem not_refused_after_return :
    ¬ ∀ (n : Nat) (c d : Crew Nat) (es fs : List (Event Nat)) (who task pick : Nat),
      History n c es → .returned (.caller who) ∈ es →
        c.step (.submit task pick) = some (d, fs) → fs = [.queue (.refused task)] := by
  intro always
  have handedBack := always 1 _ _ _ _ 1 5 0 history_of_two_calls (by simp) rfl
  cases handedBack

end LineService.Crew
