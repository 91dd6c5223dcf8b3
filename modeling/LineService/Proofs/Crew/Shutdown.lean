import LineService.Proofs.Crew.Accounting
import LineService.Proofs.Crew.Places
import Mathlib.Data.List.Chain

/-!
# Graceful shutdown

The lives of a crew follow one another in one order and none comes twice
(`History.lives_chain`, `History.lives_nodup`).  One call takes charge of the shutdown and
keeps it to the end; every other call returns at once and changes nothing
(`History.shutdown_cases`, `History.closer_of_reaches`).

A terminated crew is at rest for ever (`History.atRest`): its workers have gone home, the
tasks they were handed are finished, and its queue is closed and empty.  On the way there
nobody is stranded (`History.goesOn`): while no worker is busy, either the one in charge can
go on or a worker it waits for can go home.
-/

set_option autoImplicit false

namespace LineService.Crew

variable {α : Type} {c d : Crew α} {n : Nat} {es : List (Event α)}

/-! ## Lives -/

/-- One life leads to the next.  Founding may fail, so the second may be left out. -/
inductive Life.Next : Life → Life → Prop where
  | ready : Next .created .running
  | failed : Next .created .shuttingDown
  | stopping : Next .running .shuttingDown
  | ended : Next .shuttingDown .terminated

def Life.rank : Life → Nat
  | .created => 0
  | .running => 1
  | .shuttingDown => 2
  | .terminated => 3

theorem Life.Next.rank_lt {a b : Life} (next : Next a b) : a.rank < b.rank := by
  cases next <;> decide

/-- The life that begins with an event. -/
def Event.entered? : Event α → Option Life
  | .handedOver _ => some .running
  | .signalled => some .shuttingDown
  | .stopped => some .terminated
  | _ => none

/-- The lives that a crew has come to, in the order in which it has. -/
def lives (es : List (Event α)) : List Life := .created :: es.filterMap Event.entered?

theorem lives_append (es fs : List (Event α)) :
    lives (es ++ fs) = lives es ++ fs.filterMap Event.entered? := by
  simp [lives]

/-- A step leads to the next life or stays in the present one. -/
theorem Standing.life_of_turn {done fs : List (Event α)} {l : Label α}
    (standing : Standing c done) (turn : Turn c l d fs) :
    (d.life = c.life ∧ fs.filterMap Event.entered? = []) ∨
      (Life.Next c.life d.life ∧ fs.filterMap Event.entered? = [d.life]) := by
  cases turn with
  | spawnFailed f fresh room => exact .inr ⟨fresh ▸ .failed, rfl⟩
  | handedOver fresh full => exact .inr ⟨fresh ▸ .ready, rfl⟩
  | signalled who ready early =>
      exact .inr ⟨standing.running_of_ready ready early ▸ .stopping, rfl⟩
  | ended who stage =>
      obtain ⟨-, life, -⟩ := standing.of_ending stage
      exact .inr ⟨life ▸ .ended, rfl⟩
  | _ => exact .inl ⟨rfl, rfl⟩

/-- Only a founder that fails to start a worker leaves a life out. -/
theorem Standing.failed_of_turn {done fs : List (Event α)} {l : Label α}
    (standing : Standing c done) (turn : Turn c l d fs) (fresh : c.life = .created)
    (stopping : d.life = .shuttingDown) : ∃ f, l = .spawn (.error f) := by
  cases turn with
  | spawnFailed f => exact ⟨f, rfl⟩
  | handedOver => cases stopping
  | signalled who ready early =>
      exact absurd (fresh.symm.trans (standing.running_of_ready ready early)) (by simp)
  | ended => cases stopping
  | _ => exact absurd (fresh.symm.trans stopping) (by simp)

/-- **Lives come in order**, and the last one is the present one. -/
theorem History.lives_chain (history : History n c es) :
    (lives es).IsChain Life.Next ∧ (lives es).getLast? = some c.life := by
  induction history using History.induct with
  | start => exact ⟨.singleton _, rfl⟩
  | next before turn _ ih =>
      obtain ⟨chain, last⟩ := ih
      rw [lives_append]
      rcases before.standing.life_of_turn turn with ⟨same, nothing⟩ | ⟨next, entered⟩
      · rw [nothing, List.append_nil, same]
        exact ⟨chain, last⟩
      · rw [entered]
        refine ⟨List.isChain_append.mpr ⟨chain, .singleton _, ?_⟩, by simp⟩
        simpa [last] using next

/-- No life comes twice. -/
theorem History.lives_nodup (history : History n c es) : (lives es).Nodup := by
  have ranks : ((lives es).map Life.rank).IsChain (· < ·) :=
    (List.isChain_map Life.rank).mpr (history.lives_chain.1.imp fun _ _ next => next.rank_lt)
  have apart : ((lives es).map Life.rank).Nodup :=
    (List.isChain_iff_pairwise.mp ranks).imp Nat.ne_of_lt
  exact apart.of_map

/-- No life follows the last one. -/
theorem History.terminated_of_reaches (history : History n c es) (ended : c.life = .terminated)
    {fs : List (Event α)} (reached : Machine.Reaches step c d fs) : d.life = .terminated := by
  induction reached with
  | refl => exact ended
  | tail before taken ih =>
      have standing := (history.trans before).standing
      rcases standing.life_of_turn (turn_of_step taken) with ⟨same, -⟩ | ⟨next, -⟩
      · exact same.trans ih
      · rw [ih] at next
        cases next

/-! ## One call in charge -/

/-- What has been done of the shutdown is a beginning of the script. -/
theorem Standing.prefix_script {done : List (Event α)} (standing : Standing c done) :
    ∃ as, done <+: closingScript c.workers.length as := by
  cases standing with
  | founding | running => exact ⟨[], List.nil_prefix⟩
  | closing | draining => exact ⟨[], List.prefix_append _ _⟩
  | joining who k life closer shut gone =>
      exact ⟨[], (joinedScript_mono gone.le_length).trans (List.prefix_append _ _)⟩
  | ending who as => exact ⟨as, [.stopped], by simp [closingScript]⟩
  | ended as => exact ⟨as, List.prefix_rfl⟩

/-- It is all of the script once the crew is terminated. -/
theorem Standing.whole_script {done : List (Event α)} (standing : Standing c done) :
    ∃ as, done <+: closingScript c.workers.length as ∧
      (c.life = .terminated → done = closingScript c.workers.length as) := by
  by_cases ended : c.life = .terminated
  · obtain ⟨⟨as, whole⟩, -⟩ := standing.of_terminated ended
    exact ⟨as, whole ▸ List.prefix_rfl, fun _ => whole⟩
  · obtain ⟨as, begun⟩ := standing.prefix_script
    exact ⟨as, begun, fun again => absurd again ended⟩

/-- **One call takes charge.**  A call of shutdown takes charge of a running crew; later
ones return at once and change nothing. -/
theorem History.shutdown_cases (history : History n c es) {who : Nat} {fs : List (Event α)}
    (taken : c.step (.shutdown who) = some (d, fs)) :
    (c.life = .running ∧ fs = [.signalled] ∧ d.closer = some (.caller who, .closing)) ∨
      ((c.life = .shuttingDown ∨ c.life = .terminated) ∧ fs = [.returned (.caller who)] ∧
        d = c) := by
  rcases of_shutdown taken with ⟨ready, early, rfl, rfl⟩ | ⟨late, rfl, rfl⟩
  · exact .inl ⟨history.standing.running_of_ready ready early, rfl, rfl⟩
  · exact .inr ⟨late, rfl, rfl⟩

/-- Whoever is in charge stays so until the crew is terminated, and returns then. -/
theorem Standing.closer_of_turn {done fs : List (Event α)} {l : Label α} {who : Closer}
    {stage : Closing} (standing : Standing c done) (turn : Turn c l d fs)
    (charge : c.closer = some (who, stage)) :
    (∃ stage', d.closer = some (who, stage')) ∨
      (d.closer = none ∧ d.life = .terminated ∧ fs = [.stopped, .returned who]) := by
  cases turn with
  | spawnFailed f fresh room =>
      exact absurd ((standing.nobody_of_early (.inl fresh)).symm.trans charge) (by simp)
  | signalled who ready early =>
      exact absurd ((standing.nobody_of_early early).symm.trans charge) (by simp)
  | closed _ here | joined _ _ here | joinedAll _ _ here | drained _ here =>
      cases here.symm.trans charge
      exact .inl ⟨_, rfl⟩
  | ended _ here =>
      cases here.symm.trans charge
      exact .inr ⟨rfl, rfl, rfl⟩
  | _ => exact .inl ⟨stage, charge⟩

/-- Only whoever is in charge closes the queue, waits for workers, releases tasks or
terminates the crew. -/
theorem performed_of_turn {fs : List (Event α)} {l : Label α} (turn : Turn c l d fs) :
    performed fs = [] ∨ performed fs = [.signalled] ∨
      (l = .advance ∧ ∃ who stage, c.closer = some (who, stage)) := by
  cases turn with
  | spawnFailed | signalled => exact .inr (.inl rfl)
  | closed who stage => exact .inr (.inr ⟨rfl, _, _, stage⟩)
  | joined who k stage => exact .inr (.inr ⟨rfl, _, _, stage⟩)
  | drained who stage => exact .inr (.inr ⟨rfl, _, _, stage⟩)
  | ended who stage => exact .inr (.inr ⟨rfl, _, _, stage⟩)
  | _ => exact .inl rfl

/-- Whoever is in charge is so until the end. -/
theorem History.closer_of_reaches (history : History n c es) {who : Closer} {stage : Closing}
    (charge : c.closer = some (who, stage)) {fs : List (Event α)}
    (reached : Machine.Reaches step c d fs) :
    (∃ stage', d.closer = some (who, stage')) ∨ d.life = .terminated := by
  induction reached with
  | refl => exact .inl ⟨stage, charge⟩
  | tail before taken ih =>
      have later := history.trans before
      rcases ih with ⟨stage', still⟩ | ended
      · rcases later.standing.closer_of_turn (turn_of_step taken) still with same | ⟨-, ended, -⟩
        · exact .inl same
        · exact .inr ended
      · exact .inr (later.terminated_of_reaches ended (.single taken))

/-! ## At rest -/

/-- Nothing goes on in a crew and nothing ever will. -/
structure AtRest (c : Crew α) (es : List (Event α)) : Prop where
  gone : ∀ w ∈ c.workers, w = .exited
  /-- Every worker has run to its end what it was handed. -/
  finished : ∀ k, handedTo k es = finishedBy k es
  shut : c.queue.closed = true
  nothing : c.queue.tasks = []

theorem GoneBefore.eq_exited (gone : GoneBefore c c.workers.length) :
    ∀ w ∈ c.workers, w = .exited := by
  intro w member
  obtain ⟨k, less, rfl⟩ := List.mem_iff_getElem.mp member
  have here := gone k less
  rw [List.getElem?_eq_getElem less] at here
  exact Option.some.inj here

/-- Where all workers have gone nobody has a task in hand. -/
theorem GoneBefore.inHandOf_eq_nil (gone : GoneBefore c c.workers.length) (k : Nat) :
    inHandOf c k = [] := by
  rcases Nat.lt_or_ge k c.workers.length with less | more
  · rw [inHandOf_eq (gone k less)]
    rfl
  · simp [inHandOf, List.getElem?_eq_none more]

/-- A terminated crew is at rest. -/
theorem History.atRest (history : History n c es) (ended : c.life = .terminated) :
    AtRest c es := by
  obtain ⟨-, shut, gone, nothing⟩ := history.standing.of_terminated ended
  refine ⟨gone.eq_exited, fun k => ?_, shut, nothing⟩
  rw [history.handedTo_eq k, gone.inHandOf_eq_nil k, List.append_nil]

/-! ## Nobody is stranded -/

/-- A worker that asks at a closed queue goes home. -/
theorem step_ask_of_closed {k : Nat} (asking : c.workers[k]? = some .asking)
    (idle : k ∉ c.queue.asleep ∧ k ∉ c.queue.woken) (shut : c.queue.closed = true) :
    ∃ d, c.step (.ask k) = some (d, [.queue (.dismissed k)]) := by
  simp [step, asking, atQueue, Queue.step_arrive_of_closed idle shut]

/-- A worker that has been woken at a closed queue goes home. -/
theorem step_resume_of_closed {k : Nat} (waiting : c.workers[k]? = some .waiting)
    (called : k ∈ c.queue.woken) (shut : c.queue.closed = true) :
    ∃ d, c.step (.resume k) = some (d, [.queue (.dismissed k)]) := by
  simp [step, waiting, atQueue, Queue.step_resume_of_closed called shut]

/-- **Nobody is stranded.**  Between the closing of the queue and the end, while no worker is
busy, whoever is in charge can go on, or the worker it waits for can go home. -/
theorem History.goesOn (history : History n c es) (shut : c.queue.closed = true)
    (alive : c.life ≠ .terminated)
    (idle : ∀ (k : Nat) (task : α), c.workers[k]? ≠ some (.busy task)) :
    (∃ d fs, c.step .advance = some (d, fs)) ∨
      ∃ k d, c.step (.ask k) = some (d, [.queue (.dismissed k)]) ∨
        c.step (.resume k) = some (d, [.queue (.dismissed k)]) := by
  obtain ⟨who, stage, charge, begun⟩ := history.standing.of_closed shut alive
  cases stage with
  | closing => exact absurd rfl begun
  | joining k =>
      -- The next worker has gone, or it asks and is dismissed, or the closing has woken it.
      cases here : c.workers[k]? with
      | none => exact .inl (by simp [step, advance, charge, here])
      | some w =>
          cases w with
          | exited => exact .inl (by simp [step, advance, charge, here])
          | asking =>
              obtain ⟨d, taken⟩ :=
                step_ask_of_closed here (history.idle_of_asking here) shut
              exact .inr ⟨k, d, .inl taken⟩
          | waiting =>
              obtain ⟨d, taken⟩ :=
                step_resume_of_closed here (history.woken_of_closed shut here) shut
              exact .inr ⟨k, d, .inr taken⟩
          | busy task => exact absurd here (idle k task)
  | draining => exact .inl (by simp [step, advance, charge])
  | ending => exact .inl (by simp [step, advance, charge])

/-! ## Graceful shutdown -/

/-- A crew has come to its life through the ones before it, and to each once. -/
structure InOrder (c : Crew α) (es : List (Event α)) : Prop where
  chain : (lives es).IsChain Life.Next
  present : (lives es).getLast? = some c.life
  once : (lives es).Nodup
  /-- A crew is shut down before it has run only where founding it fails. -/
  failed : ∀ l d fs, c.step l = some (d, fs) → c.life = .created → d.life = .shuttingDown →
    ∃ f, l = .spawn (.error f)

/-- One call shuts a crew down, and the others leave that to it. -/
structure OneInCharge (c : Crew α) (es : List (Event α)) : Prop where
  /-- One shutdown is carried out: a call is heeded, the queue is closed, each worker is
  waited for, what is left is released and the crew is terminated, each of it once. -/
  script : ∃ as, performed es <+: closingScript c.workers.length as ∧
    (c.life = .terminated → performed es = closingScript c.workers.length as)
  begun : .signalled ∈ performed es ↔ c.life = .shuttingDown ∨ c.life = .terminated
  /-- A call takes charge of a running crew, and returns at once from any other. -/
  calls : ∀ who d fs, c.step (.shutdown who) = some (d, fs) →
    (c.life = .running ∧ fs = [.signalled] ∧ d.closer = some (.caller who, .closing)) ∨
      ((c.life = .shuttingDown ∨ c.life = .terminated) ∧ fs = [.returned (.caller who)] ∧
        d = c)
  /-- Only whoever is in charge does anything of the shutdown but begin it. -/
  work : ∀ l d fs, c.step l = some (d, fs) → performed fs = [] ∨ performed fs = [.signalled] ∨
    (l = .advance ∧ ∃ who stage, c.closer = some (who, stage))
  kept : ∀ who stage, c.closer = some (who, stage) → ∀ d fs, Machine.Reaches step c d fs →
    (∃ stage', d.closer = some (who, stage')) ∨ d.life = .terminated

theorem History.inOrder (history : History n c es) : InOrder c es where
  chain := history.lives_chain.1
  present := history.lives_chain.2
  once := history.lives_nodup
  failed := fun _ _ _ taken => history.standing.failed_of_turn (turn_of_step taken)

theorem History.oneInCharge (history : History n c es) : OneInCharge c es where
  script := history.standing.whole_script
  begun := history.standing.begun_iff
  calls := fun _ _ _ taken => history.shutdown_cases taken
  work := fun _ _ _ taken => performed_of_turn (turn_of_step taken)
  kept := fun _ _ charge _ _ reached => history.closer_of_reaches charge reached

/-- **A shutdown is graceful.**  In any crew, whatever its workers and those who submit tasks
or shut it down do in whatever order:

* its lives come in order and none comes twice;
* one call shuts it down, and every other returns at once;
* once it is terminated it is at rest, and so it stays: its workers have gone, the tasks they
  were handed are finished, and its queue is closed and empty;
* between the closing of the queue and the end, while no worker is busy, whoever is in charge
  can go on or a worker can go home. -/
theorem graceful_shutdown (history : History n c es) :
    InOrder c es ∧ OneInCharge c es ∧
      (c.life = .terminated → ∀ d fs, Machine.Reaches step c d fs →
        d.life = .terminated ∧ AtRest d (es ++ fs)) ∧
      (c.queue.closed = true → c.life ≠ .terminated →
        (∀ (k : Nat) (task : α), c.workers[k]? ≠ some (.busy task)) →
        (∃ d fs, c.step .advance = some (d, fs)) ∨
          ∃ k d, c.step (.ask k) = some (d, [.queue (.dismissed k)]) ∨
            c.step (.resume k) = some (d, [.queue (.dismissed k)])) := by
  refine ⟨history.inOrder, history.oneInCharge, ?_, history.goesOn⟩
  intro ended d fs reached
  have still := history.terminated_of_reaches ended reached
  exact ⟨still, (history.trans reached).atRest still⟩

/-- One worker is busy and one asleep when the first of two calls closes the queue; the other
call returns at once, and the first when both workers have gone. -/
theorem graceful_shutdown_two_calls :
    ∃ (b c : Crew Nat) (es fs : List (Event Nat)), History 2 b es ∧ History 2 c (es ++ fs) ∧
      b.life = .shuttingDown ∧ b.workers = [.asking, .waiting] ∧
      ((∃ d gs, b.step .advance = some (d, gs)) ∨
        ∃ k d, b.step (.ask k) = some (d, [.queue (.dismissed k)]) ∨
          b.step (.resume k) = some (d, [.queue (.dismissed k)])) ∧
      lives (es ++ fs) = [.created, .running, .shuttingDown, .terminated] ∧
      InOrder c (es ++ fs) ∧ OneInCharge c (es ++ fs) ∧ AtRest c (es ++ fs) := by
  have closing : History 2
      (⟨2, .shuttingDown, true, ⟨[], true, [], [1]⟩, [.asking, .waiting],
        some (.caller 0, .joining 0)⟩ : Crew Nat)
      [.spawned 0, .spawned 1, .handedOver 2, .queue (.slept 1), .queue (.accepted 5),
        .queue (.handed 0 5), .signalled, .returned (.caller 1), .queue (.closed true),
        .finished 0 5 .returned] :=
    ⟨_, rfl, Machine.reaches_of_run
      [.spawn (.ok ()), .spawn (.ok ()), .handOver, .ask 1, .submit 5 0, .ask 0, .shutdown 0,
        .shutdown 1, .advance, .finish 0 .returned] rfl⟩
  have ended : History 2
      (⟨2, .terminated, true, ⟨[], true, [], []⟩, [.exited, .exited], none⟩ : Crew Nat)
      (_ ++ [.queue (.dismissed 0), .queue (.dismissed 1), .joined 0, .joined 1,
        .queue (.drained []), .stopped, .returned (.caller 0)]) :=
    closing.trans (Machine.reaches_of_run
      [.ask 0, .resume 1, .advance, .advance, .advance, .advance, .advance] rfl)
  have idle : ∀ (k : Nat) (task : Nat),
      [Worker.asking, Worker.waiting][k]? ≠ some (.busy task) := by
    intro k task busy
    simpa using List.mem_of_getElem? busy
  obtain ⟨-, -, -, goesOn⟩ := graceful_shutdown closing
  obtain ⟨inOrder, oneInCharge, rest, -⟩ := graceful_shutdown ended
  exact ⟨_, _, _, _, closing, ended, rfl, rfl, goesOn rfl (by simp) idle, rfl, inOrder, oneInCharge,
    by simpa using (rest rfl _ _ .refl).2⟩

end LineService.Crew
