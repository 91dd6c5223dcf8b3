import LineService.Proofs.Service.Launch

/-!
# Start-up leaks no worker

A start-up goes on until the server is ready or nothing of it is left (`History.goesOn`), and it
does not go on for ever: `ahead` counts the steps that are left, each step lowers it, and only a
sleeper that wakes for no reason raises it again, by one (`History.countP_of_run`).

`bind` and `abandon` let the crew run until it rests wherever they wait, so what they return is
where a start-up can come to be (`found_cases`, `History.drop`, `outcome_of_bind`).

What is known of the stages then says what becomes of the workers (`startup_leaks_no_worker`): if
worker `k` cannot be started the `k` that were have gone before the error is returned
(`History.undone`), and otherwise all run until they are wanted no more (`History.complete`).
-/

set_option autoImplicit false

namespace LineService.Service.Launch

variable {α : Type} {g : Ground} {x y : Launch α} {c d : Crew α} {l : Label} {k : Nat}
  {f : Net.Fault} {es fs : List (Crew.Event α)} {stage : Stage} {cause : Option BindError}

/-! ## A start-up goes on -/

/-- Nobody has a step of the start-up left to take. -/
def Stage.isOver : Stage → Bool
  | .bound _ | .gone _ => true
  | _ => false

/-- The queue is closed, and a worker can go home. -/
def CanLeave (g : Ground) (x : Launch α) : Prop :=
  x.crew.queue.closed = true ∧ ∃ k y, x.step g (.ask k) = some (y, [.queue (.dismissed k)]) ∨
    x.step g (.resume k) = some (y, [.queue (.dismissed k)])

theorem proceed_of_failing (failing : x.stage = .failing k f) :
    x.proceed g = x.shutDown (.dropping (some (.crew (.workerFailed k f)))) := by
  simp only [proceed, failing]

theorem proceed_of_closing (closing : x.stage = .closing cause) :
    x.proceed g = x.shutDown (.gone cause) := by
  simp only [proceed, closing]

/-- A shutdown goes on, or a worker can go home. -/
theorem shutDown_goesOn (history : Crew.History g.workers x.crew es)
    (untasked : Crew.accepted es = [])
    (late : x.crew.life = .shuttingDown ∨ x.crew.life = .terminated) (next : Stage) :
    (∃ y fs, x.shutDown next = some (y, fs)) ∨ CanLeave g x := by
  rcases late with closing | ended
  · rcases history.windsDown untasked closing with ⟨d, fs, taken⟩ | ⟨shut, k, d, taken | taken⟩
    · exact .inl ⟨⟨d, x.stage⟩, fs, by simp [shutDown, closing, atCrew, taken]⟩
    · exact .inr ⟨shut, k, ⟨d, x.stage⟩, .inl (by simp [step, atCrew, taken])⟩
    · exact .inr ⟨shut, k, ⟨d, x.stage⟩, .inr (by simp [step, atCrew, taken])⟩
  · exact .inl ⟨⟨x.crew, next⟩, [], by simp [shutDown, ended]⟩

/-- As long as workers are missing, the next one is started or found to be unable. -/
theorem founding_goesOn (history : Crew.History g.workers x.crew es)
    (founding : x.stage = .founding) (fresh : x.crew.life = .created) :
    ∃ y fs, x.proceed g = some (y, fs) := by
  obtain ⟨size, le⟩ := history.length_le
  by_cases room : x.crew.workers.length < x.crew.size
  · cases answer : g.spawner x.crew.workers.length <;>
      simp [proceed, founding, room, answer, atCrew, Crew.step, fresh]
  · have full : x.crew.workers.length = x.crew.size := by omega
    simp [proceed, founding, full, atCrew, Crew.step, fresh]

/-- **A start-up goes on.**  As long as it is not over, whoever starts the server can go on, or a
worker can go home. -/
theorem History.goesOn (history : History g x es) (going : x.stage.isOver = false) :
    (∃ y fs, x.step g .proceed = some (y, fs)) ∨ CanLeave g x := by
  obtain ⟨crew, untasked⟩ := history.crew
  have course := history.course
  change (∃ y fs, x.proceed g = some (y, fs)) ∨ _
  generalize here : x.stage = stage at course going
  cases course with
  | founding fresh => exact .inl (founding_goesOn crew here fresh)
  | failing _ late =>
      rw [proceed_of_failing here]
      exact shutDown_goesOn crew untasked late _
  | failed _ ended => exact .inl (by simp [proceed, here, ended, atCrew, Crew.step])
  | listening => cases answer : g.listening <;> exact .inl (by simp [proceed, here, answer])
  | dropping _ running =>
      have ready := crew.standing.ready_of_running running
      exact .inl (by simp [proceed, here, running, atCrew, Crew.step, ready])
  | closing _ late =>
      rw [proceed_of_closing here]
      exact shutDown_goesOn crew untasked late _
  | bound | gone | failedGone => cases going

/-! ## A start-up ends -/

/-- The steps that whoever starts the server has ahead, but for those of a shutdown that has
begun. -/
def stageAhead (g : Ground) (x : Launch α) : Nat :=
  match x.stage with
  -- A worker that is started has two steps of its own to take.
  | .founding => 3 * (g.workers - x.crew.workers.length) + g.workers + 9
  | .failing .. => 2
  | .listening => x.crew.workers.length + 8
  | .bound _ => x.crew.workers.length + 7
  -- The steps of a shutdown are counted with the crew as soon as it has begun.
  | .dropping _ => if x.crew.life = .terminated then 1 else x.crew.workers.length + 6
  | .closing _ => 1
  | .gone _ => 0

/-- The steps that a start-up has ahead. -/
def ahead (g : Ground) (x : Launch α) : Nat := x.stageAhead g + x.crew.ahead

/-- A step of a worker at the queue leaves to the founder the steps that it has ahead. -/
theorem stageAhead_of_queueing {m : Crew.Label α} (queueing : ∃ k, m = .ask k ∨ m = .resume k ∨
    m = .stir k) (taken : x.crew.step m = some (d, fs)) :
    stageAhead g ⟨d, x.stage⟩ = x.stageAhead g := by
  obtain ⟨life, length, -⟩ := Crew.kept_of_queueing (Crew.turn_of_step taken) queueing
  simp only [stageAhead, life, length]

/-- **Every step brings a start-up nearer to its end**, but for those of workers that wake for no
reason. -/
theorem History.ahead_lt (history : History g x es) (turn : Turn g x l y fs)
    (other : l.isStir = false) : y.ahead g < x.ahead g := by
  obtain ⟨crew, untasked⟩ := history.crew
  have size := crew.length_le.1
  have course := history.course
  have nothing := (crew.unused untasked).nothing
  cases turn with
  | started founding _ taken =>
      obtain ⟨room, rfl, -⟩ := Crew.of_spawn_ok taken
      rw [founding] at course
      cases course with
      | founding fresh =>
          have nobody := (crew.standing.of_created fresh).2.1
          simp only [ahead, stageAhead, founding, Crew.ahead_asking nobody, List.length_append,
            List.length_singleton]
          omega
  | failed founding _ taken =>
      obtain ⟨fresh, room, rfl, -⟩ := Crew.of_spawn_error taken
      have nobody := (crew.standing.of_created fresh).2.1
      simp only [ahead, stageAhead, founding, Crew.ahead_signalled nobody]
      omega
  | founded founding taken =>
      obtain ⟨full, rfl, -⟩ := Crew.of_handOver taken
      have same : ({ x.crew with life := .running, ready := true } : Crew α).ahead =
          x.crew.ahead := rfl
      simp only [ahead, stageAhead, founding, same]
      omega
  | listens listening => simp [ahead, stageAhead, listening]
  | deaf listening =>
      simp only [ahead, stageAhead, listening]
      split <;> omega
  | givenUp bound =>
      simp only [ahead, stageAhead, bound]
      split <;> omega
  | sending failing taken =>
      have less := Crew.ahead_of_advance (Crew.turn_of_step taken)
      simp only [ahead, stageAhead, failing]
      omega
  | sent failing ended => simp [ahead, stageAhead, failing, ended]
  | dropped dropping early taken =>
      have nobody := crew.standing.nobody_of_early early
      rcases Crew.of_shutdown taken with ⟨-, -, rfl, -⟩ | ⟨late, -⟩
      · have alive : x.crew.life ≠ .terminated := by
          rcases early with early | early <;> simp [early]
        simp only [ahead, stageAhead, dropping, Crew.ahead_signalled nobody, if_neg alive]
        omega
      · rcases early with early | early <;> simp [early] at late
  | droppedLate dropping late taken =>
      rcases Crew.of_shutdown taken with ⟨-, early, -⟩ | ⟨-, rfl, -⟩
      · rcases early with early | early <;> simp [early] at late
      · simp only [ahead, stageAhead, dropping]
        split <;> omega
  | closing closing taken =>
      have less := Crew.ahead_of_advance (Crew.turn_of_step taken)
      simp only [ahead, stageAhead, closing]
      omega
  | closed closing => simp [ahead, stageAhead, closing]
  | asked k taken =>
      have same := stageAhead_of_queueing (g := g) ⟨k, .inl rfl⟩ taken
      have less := Crew.ahead_of_visit (Crew.turn_of_step taken) ⟨k, .inl rfl⟩ nothing
      exact Nat.add_lt_add_of_le_of_lt same.le less
  | resumed k taken =>
      have same := stageAhead_of_queueing (g := g) ⟨k, .inr (.inl rfl)⟩ taken
      have less := Crew.ahead_of_visit (Crew.turn_of_step taken) ⟨k, .inr rfl⟩ nothing
      exact Nat.add_lt_add_of_le_of_lt same.le less
  | stirred => cases other

/-- A sleeper that wakes for no reason will fall asleep again. -/
theorem ahead_of_stir (turn : Turn g x (.stir k) y fs) : y.ahead g ≤ x.ahead g + 1 := by
  cases turn with
  | stirred _ taken =>
      have same := stageAhead_of_queueing (g := g) ⟨k, .inr (.inr rfl)⟩ taken
      have more := Crew.ahead_of_stir (Crew.turn_of_step taken)
      exact (Nat.add_le_add same.le more).trans_eq (Nat.add_assoc _ _ _).symm

/-- **A start-up ends.**  In a run of it there are no more steps than it has ahead, but for those of
workers that wake for no reason and what these do then. -/
theorem History.countP_of_run (history : History g x es) (ls : List Label)
    (ran : Machine.run (step g) x ls = some (y, fs)) :
    ls.countP (fun l => !l.isStir) + y.ahead g ≤ x.ahead g + ls.countP Label.isStir := by
  induction ls generalizing x es fs with
  | nil =>
      cases ran
      exact (Nat.zero_add _).le
  | cons l ls ih =>
      obtain ⟨z, gs, hs, taken, rest, rfl⟩ := Machine.run_cons_eq_some.mp ran
      have later := ih (history.trans (.single taken)) rest
      have turn := turn_of_step taken
      rw [List.countP_cons, List.countP_cons]
      cases stirs : l.isStir with
      | false =>
          have less := history.ahead_lt turn stirs
          simp only [Bool.not_false, if_true, Bool.false_eq_true, if_false]
          omega
      | true =>
          cases l with
          | stir k =>
              have more := ahead_of_stir turn
              simp only [Bool.not_true, if_true, Bool.false_eq_true, if_false]
              omega
          | _ => cases stirs

/-! ## The functions follow the steps -/

theorem History.proceed (history : History g x es) (taken : x.step g .proceed = some (y, fs)) :
    History g y (es ++ fs) := history.trans (.single taken)

/-- A step that comes to nothing adds nothing to what has happened. -/
theorem History.silent (history : History g x es) (taken : x.step g l = some (y, [])) :
    History g y es := by
  simpa using history.trans (.single taken)

/-- A crew is being shut down only at the stages at which somebody does so. -/
theorem Course.winding (course : Course g c es stage) (closing : c.life = .shuttingDown) :
    (∃ k f, stage = .failing k f) ∨ ∃ cause, stage = .closing cause := by
  cases course with
  | failing => exact .inl ⟨_, _, rfl⟩
  | closing => exact .inr ⟨_, rfl⟩
  | _ => simp_all

/-- A step that the crew takes by itself is a step of the start-up. -/
theorem History.step_of_nextTurn {m : Crew.Label α} (history : History g ⟨c, stage⟩ es)
    (chosen : c.nextTurn = some m) (taken : c.step m = some (d, fs)) :
    History g ⟨d, stage⟩ (es ++ fs) := by
  rcases Crew.nextTurn_cases chosen with ⟨k, rfl | rfl⟩ | rfl
  · exact history.trans (.single (l := .ask k) (by simp [step, atCrew, taken]))
  · exact history.trans (.single (l := .resume k) (by simp [step, atCrew, taken]))
  · have closing : c.life = .shuttingDown := history.crew.1.standing.closing_of_advance taken
    refine history.proceed ?_
    rcases history.course.winding closing with ⟨k, f, rfl⟩ | ⟨cause, rfl⟩ <;>
      simp [step, Launch.proceed, shutDown, closing, atCrew, taken]

/-- **A crew that is left to itself stays within its start-up.** -/
theorem History.settle (history : History g ⟨c, stage⟩ es) :
    History g ⟨c.settle.1, stage⟩ (es ++ c.settle.2) :=
  Machine.settle_induct Crew.step Crew.nextTurn c.stepBound
    (motive := fun d gs => History g ⟨d, stage⟩ (es ++ gs)) (by simpa using history)
    fun chosen taken here => by
      rw [← List.append_assoc]
      exact here.step_of_nextTurn chosen taken

theorem step_started (here : k < g.workers) (able : g.spawner k = .ok ()) :
    (⟨Crew.started g.workers k, .founding⟩ : Launch α).step g .proceed =
      some (⟨Crew.started g.workers (k + 1), .founding⟩, [.spawned k]) := by
  have next : (Crew.started g.workers k : Crew α).workers.length = k := List.length_replicate
  have size : (Crew.started g.workers k : Crew α).size = g.workers := rfl
  simp [step, Launch.proceed, next, size, here, able, atCrew, Crew.step_spawn_ok here]

theorem step_unable (here : k < g.workers) (unable : g.spawner k = .error f) :
    (⟨Crew.started g.workers k, .founding⟩ : Launch α).step g .proceed =
      some (⟨Crew.failedAt g.workers k f, .failing k f⟩, [.spawnFailed k f, .signalled]) := by
  have next : (Crew.started g.workers k : Crew α).workers.length = k := List.length_replicate
  have size : (Crew.started g.workers k : Crew α).size = g.workers := rfl
  simp [step, Launch.proceed, next, size, here, unable, atCrew, Crew.step_spawn_error here]

theorem step_founded : (⟨Crew.started g.workers g.workers, .founding⟩ : Launch α).step g .proceed =
    some (⟨Crew.opened g.workers, .listening⟩, [.handedOver g.workers]) := by
  have all : (Crew.started g.workers g.workers : Crew α).workers.length = g.workers :=
    List.length_replicate
  have size : (Crew.started g.workers g.workers : Crew α).size = g.workers := rfl
  simp [step, Launch.proceed, all, size, atCrew, Crew.step_handOver]

/-- **Starting workers** starts all of them, or fails at the first that cannot be started. -/
theorem History.spawnAll {n : Nat} (room : k + n = g.workers)
    (history : History g ⟨Crew.started g.workers k, .founding⟩ es)
    {r : Crew α × List (Crew.Event α)}
    (spawned : Crew.spawnAll g.spawner n (Crew.started g.workers k) = r) :
    (∃ j f, r.1.closer = some (.founder j f, .closing) ∧
        History g ⟨r.1, .failing j f⟩ (es ++ r.2)) ∨
      r.1 = Crew.started g.workers g.workers ∧ History g ⟨r.1, .founding⟩ (es ++ r.2) := by
  subst spawned
  induction n generalizing k es with
  | zero =>
      rw [Nat.add_zero] at room
      subst room
      exact .inr ⟨rfl, by simpa [Crew.spawnAll] using history⟩
  | succ n ih =>
      have here : k < g.workers := by omega
      have next : (Crew.started g.workers k : Crew α).workers.length = k := List.length_replicate
      cases answer : g.spawner k with
      | error f =>
          left
          refine ⟨k, f, ?_⟩
          have rest := Crew.spawnAll_of_late (c := (Crew.failedAt g.workers k f : Crew α))
            g.spawner n (by simp [Crew.failedAt])
          simp only [Crew.spawnAll, next, answer, Crew.step_spawn_error here, rest]
          exact ⟨rfl, by simpa using history.proceed (step_unable here answer)⟩
      | ok =>
          simp only [Crew.spawnAll, next, answer, Crew.step_spawn_ok here]
          simpa [List.append_assoc] using
            ih (k := k + 1) (by omega) (history.proceed (step_started here answer))

/-- Shutting down a crew that has never been given a task leaves it terminated. -/
theorem History.settled (history : History g ⟨c, stage⟩ es) (closing : c.life = .shuttingDown) :
    c.settle.1.life = .terminated := by
  obtain ⟨crew, untasked⟩ := history.crew
  exact Crew.History.settle_terminated crew untasked closing

/-- **Founding a crew** is the part of a start-up that comes before listening. -/
theorem found_cases (wanted : g.workers ≠ 0) : ∃ (c : Crew α) (es : List (Crew.Event α)),
    (∃ k f, Crew.found g.workers g.spawner = ⟨.error (.workerFailed k f), .some c, es⟩ ∧
        History g ⟨c, .dropping (.some (.crew (.workerFailed k f)))⟩ es) ∨
      Crew.found g.workers g.spawner = ⟨.ok c, .some c, es⟩ ∧ History g ⟨c, .listening⟩ es := by
  obtain ⟨r, spawned⟩ : ∃ r, Crew.spawnAll g.spawner g.workers (Crew.started g.workers 0 : Crew α)
      = r := ⟨_, rfl⟩
  have start : History g ⟨(Crew.started g.workers 0 : Crew α), .founding⟩ [] :=
    ⟨_, if_neg wanted, .refl⟩
  rcases start.spawnAll (Nat.zero_add _) spawned with ⟨k, f, failed, history⟩ | ⟨all, history⟩
  · have closing := (history.crew.1.standing.of_closing failed).2.1
    have ended := history.settled closing
    refine ⟨_, _, .inl ⟨k, f, Crew.found_error wanted spawned failed, ?_⟩⟩
    exact history.settle.silent (l := .proceed) (by simp [step, Launch.proceed, shutDown, ended])
  · refine ⟨_, _, .inr ⟨Crew.found_eq wanted spawned all, ?_⟩⟩
    rw [all] at history
    simpa using (history.proceed step_founded).settle

/-- **Dropping a crew that runs** shuts it down. -/
theorem History.drop (history : History g ⟨c, .dropping cause⟩ es) (running : c.life = .running) :
    History g ⟨(c.shutDown 0).1, .gone cause⟩ (es ++ (c.shutDown 0).2) := by
  have ready : c.ready = true := history.crew.1.standing.ready_of_running running
  obtain ⟨d, taken, closing⟩ : ∃ d, c.step (.shutdown 0) = some (d, [.signalled]) ∧
      d.life = .shuttingDown := by
    simp [Crew.step, ready, running]
  have begun : History g ⟨d, .closing cause⟩ (es ++ [.signalled]) :=
    history.proceed (by simp [step, Launch.proceed, running, atCrew, taken])
  have ended := begun.settled closing
  have whole : c.shutDown 0 = (d.settle.1, [.signalled] ++ d.settle.2) := by
    simp [Crew.shutDown, Crew.stepAndSettle, taken]
  rw [whole]
  rw [← List.append_assoc]
  exact begun.settle.silent (l := .proceed) (by simp [step, Launch.proceed, shutDown, ended])

/-! ## No worker is left behind -/

/-- A start-up whose worker `k` cannot be started, at any moment. -/
structure Undone (g : Ground) (k : Nat) (f : Net.Fault) (x : Launch α)
    (es : List (Crew.Event α)) : Prop where
  /-- Workers are tried in their order, and none after worker `k`. -/
  tried : ∃ m ≤ k + 1, Crew.attempts es = List.range m
  /-- Once worker `k` has been tried, the workers before it are all that have been started, and it
  is named by the error. -/
  stage : x.stage = .founding ∨ Crew.attempts es = List.range (k + 1) ∧
    Crew.spawned es = List.range k ∧
      (x.stage = .failing k f ∨ x.stage = .dropping (some (.crew (.workerFailed k f))) ∨
        x.stage = .gone (some (.crew (.workerFailed k f))))
  /-- They have gone and have been waited for before the crew is dropped and the error returned. -/
  woundUp : ∀ cause, x.stage = .dropping cause ∨ x.stage = .gone cause →
    Crew.WoundUp k x.crew es
  /-- Dropping the crew does nothing more. -/
  dropped : ∀ cause, x.stage = .dropping cause → ∀ y fs, x.step g .proceed = some (y, fs) →
    y = ⟨x.crew, .gone cause⟩ ∧ fs = [.returned (.caller 0)]

/-- A start-up all of whose workers can be started, at any moment. -/
structure Complete (g : Ground) (x : Launch α) (es : List (Crew.Event α)) : Prop where
  tried : ∃ m ≤ g.workers, Crew.attempts es = List.range m
  founded : ∀ k f, x.stage ≠ .failing k f
  /-- What is handed over runs with all its workers. -/
  manned : x.stage = .listening ∨ (∃ port, x.stage = .bound port) →
    Crew.attempts es = List.range g.workers ∧ Crew.Manned g.workers x.crew es
  port : ∀ port, x.stage = .bound port → g.listening = .ok port
  /-- It is dropped where listening fails, or when the server is given up. -/
  cause : ∀ cause, x.stage = .dropping cause ∨ x.stage = .closing cause ∨ x.stage = .gone cause →
    Crew.attempts es = List.range g.workers ∧ g.Cause cause
  /-- Its workers have gone and have been waited for before the error is returned, or the drop is
  over. -/
  woundUp : ∀ cause, x.stage = .gone cause → Crew.WoundUp g.workers x.crew es

/-- What getting ready to serve comes to. -/
inductive Outcome (g : Ground) : Binding α → Prop where
  | invalid (nobody : g.workers = 0) : Outcome g ⟨.error (.crew (.invalidSize 0)), none, []⟩
  | failed {k : Nat} {f : Net.Fault} {c : Crew α} {es : List (Crew.Event α)}
      (first : g.FailsAt k f) (tried : Crew.attempts es = List.range (k + 1))
      (woundUp : Crew.WoundUp k c es) : Outcome g ⟨.error (.crew (.workerFailed k f)), some c, es⟩
  | deaf {f : Net.Fault} {c : Crew α} {es : List (Crew.Event α)} (wanted : 0 < g.workers)
      (able : g.Able) (failed : g.listening = .error f)
      (tried : Crew.attempts es = List.range g.workers) (woundUp : Crew.WoundUp g.workers c es) :
      Outcome g ⟨.error (.listen g.settings.port f), .some c, es⟩
  | ready {port : UInt16} {c : Crew α} {es : List (Crew.Event α)} (wanted : 0 < g.workers)
      (able : g.Able) (listens : g.listening = .ok port)
      (tried : Crew.attempts es = List.range g.workers) (manned : Crew.Manned g.workers c es)
      (woundUp : Crew.WoundUp g.workers (Bound.abandon ⟨c, port⟩).1
        (es ++ (Bound.abandon ⟨c, port⟩).2)) : Outcome g ⟨.ok ⟨c, port⟩, .some c, es⟩

theorem History.undone (history : History g x es) (first : g.FailsAt k f) :
    Undone g k f x es := by
  obtain ⟨crew, untasked⟩ := history.crew
  have course := history.course
  have started := crew.spawned_eq
  generalize here : x.stage = stage at course
  cases course with
  | founding _ able tried =>
      have le : x.crew.workers.length ≤ k := by
        refine Nat.le_of_not_lt fun more => ?_
        cases (able k more).symm.trans first.unable
      exact {
        tried := ⟨_, Nat.le_succ_of_le le, tried⟩
        stage := .inl here
        woundUp := by simp [here]
        dropped := by simp [here] }
  | failing failed =>
      obtain ⟨rfl, rfl⟩ := first.unique failed.first
      exact {
        tried := ⟨_, Nat.le_refl _, failed.tried⟩
        stage := .inr ⟨failed.tried, failed.started ▸ started, .inl here⟩
        woundUp := by simp [here]
        dropped := by simp [here] }
  | failed failed ended =>
      obtain ⟨rfl, rfl⟩ := first.unique failed.first
      have woundUp := failed.started ▸ crew.woundUp untasked ended
      exact {
        tried := ⟨_, Nat.le_refl _, failed.tried⟩
        stage := .inr ⟨failed.tried, failed.started ▸ started, .inr (.inl here)⟩
        woundUp := fun _ _ => woundUp
        dropped := by
          intro cause dropping y fs taken
          have drop := woundUp.step_shutdown 0
          simp only [step, Launch.proceed, dropping, ended, atCrew, drop] at taken
          cases taken
          exact ⟨rfl, rfl⟩ }
  | failedGone failed ended =>
      obtain ⟨rfl, rfl⟩ := first.unique failed.first
      have woundUp := failed.started ▸ crew.woundUp untasked ended
      exact {
        tried := ⟨_, Nat.le_refl _, failed.tried⟩
        stage := .inr ⟨failed.tried, failed.started ▸ started, .inr (.inr here)⟩
        woundUp := fun _ _ => woundUp
        dropped := by simp [here] }
  | listening whole | bound whole | dropping whole | closing whole | gone whole =>
      exact absurd whole.able first.not_able

theorem History.complete (history : History g x es) (able : g.Able) : Complete g x es := by
  obtain ⟨crew, untasked⟩ := history.crew
  have course := history.course
  generalize here : x.stage = stage at course
  cases course with
  | founding _ _ tried =>
      exact {
        tried := ⟨_, crew.length_le.2, tried⟩
        founded := by simp [here]
        manned := by simp [here]
        port := by simp [here]
        cause := by simp [here]
        woundUp := by simp [here] }
  | failing failed | failed failed | failedGone failed => exact absurd able failed.first.not_able
  | listening whole running | bound whole running listens =>
      exact {
        tried := ⟨_, Nat.le_refl _, whole.tried⟩
        founded := by simp [here]
        manned := fun _ => ⟨whole.tried, crew.manned running whole.started⟩
        port := by simp_all
        cause := by simp [here]
        woundUp := by simp [here] }
  | dropping whole _ why | closing whole _ why =>
      exact {
        tried := ⟨_, Nat.le_refl _, whole.tried⟩
        founded := by simp [here]
        manned := by simp [here]
        port := by simp [here]
        cause := by simp_all [whole.tried]
        woundUp := by simp [here] }
  | gone whole ended why =>
      exact {
        tried := ⟨_, Nat.le_refl _, whole.tried⟩
        founded := by simp [here]
        manned := by simp [here]
        port := by simp [here]
        cause := by simp_all [whole.tried]
        woundUp := fun _ _ => whole.started ▸ crew.woundUp untasked ended }

/-- What `bind` returns is where a start-up comes. -/
theorem outcome_of_bind (g : Ground) :
    Outcome g (bind g.settings g.spawner g.listening : Binding α) := by
  by_cases nobody : g.workers = 0
  · have zero : g.settings.workers.toNat = 0 := nobody
    have nothing : (bind g.settings g.spawner g.listening : Binding α) =
        ⟨.error (.crew (.invalidSize 0)), none, []⟩ := by
      simp [bind, zero, Crew.found, Crew.new]
    rw [nothing]
    exact .invalid nobody
  · have size : g.settings.workers.toNat = g.workers := rfl
    have wanted : 0 < g.workers := Nat.pos_of_ne_zero nobody
    obtain ⟨c, es, ⟨k, f, founding, history⟩ | ⟨founding, history⟩⟩ := found_cases (α := α) nobody
    · simp only [bind, size, founding]
      cases history.course with
      | failed failed ended =>
          obtain ⟨crew, untasked⟩ := history.crew
          exact .failed failed.first failed.tried (failed.started ▸ crew.woundUp untasked ended)
      | dropping _ _ why => cases why
    · have whole : Whole g c es ∧ c.life = .running := by
        cases history.course with
        | listening whole running => exact ⟨whole, running⟩
      obtain ⟨⟨able, started, tried⟩, running⟩ := whole
      cases answer : g.listening with
      | error f =>
          have dropping : History g ⟨c, .dropping (.some (.listen g.settings.port f))⟩ es :=
            history.silent (l := .proceed) (by simp [step, Launch.proceed, answer])
          have gone := (dropping.drop running).complete able
          simp only [bind, size, founding]
          exact .deaf wanted able answer (gone.cause _ (.inr (.inr rfl))).1 (gone.woundUp _ rfl)
      | ok port =>
          have bound : History g ⟨c, .bound port⟩ es :=
            history.silent (l := .proceed) (by simp [step, Launch.proceed, answer])
          have dropping : History g ⟨c, .dropping none⟩ es :=
            bound.silent (l := .abandon) (by simp [step])
          have gone := (dropping.drop running).complete able
          simp only [bind, size, founding]
          exact .ready wanted able answer tried (history.crew.1.manned running started)
            (gone.woundUp _ rfl)

/-- **Start-up leaks no worker.**  Whatever number of workers is wanted, whichever of them cannot be
started and whatever those that were do meanwhile:

* where none is wanted, nobody begins to start any;
* where worker `k` is the first that cannot be started, none after it is tried, and those before it
  have gone before the crew is dropped, which does nothing more, and the error returned, which names
  worker `k`;
* where all can be started, the crew that is handed over runs with all of them, and they have gone
  by the time that listening has failed or the server that was ready has been given up;
* until then whoever starts the server can go on, or a worker can go home, and there is a bound on
  the steps that are taken, but for sleepers that wake for no reason;
* and what `bind` returns, and what `abandon` leaves of it, is one of the ends described so. -/
theorem startup_leaks_no_worker (g : Ground) :
    (g.workers = 0 → ∀ (x : Launch α) es, ¬ History g x es) ∧
      (∀ k f, g.FailsAt k f → ∀ (x : Launch α) es, History g x es → Undone g k f x es) ∧
      (g.Able → ∀ (x : Launch α) es, History g x es → Complete g x es) ∧
      (∀ (x : Launch α) es, History g x es → x.stage.isOver = false →
        (∃ y fs, x.step g .proceed = some (y, fs)) ∨ CanLeave g x) ∧
      (∀ c₀ : Crew α, Crew.new g.workers = .ok c₀ → ∀ ls y fs,
        Machine.run (step g) ⟨c₀, .founding⟩ ls = some (y, fs) →
          ls.countP (fun l => !l.isStir) + y.ahead g ≤
            4 * g.workers + 9 + ls.countP Label.isStir) ∧
      Outcome g (bind g.settings g.spawner g.listening : Binding α) := by
  refine ⟨?nobody, fun k f first x es history => history.undone first,
    fun able x es history => history.complete able, fun x es history => history.goesOn, ?ends,
    outcome_of_bind g⟩
  case nobody =>
    rintro nobody x es ⟨c₀, founded, -⟩
    exact absurd nobody (Crew.new_eq_ok founded).1.ne'
  case ends =>
    intro c₀ founded ls y fs ran
    have start : History g ⟨c₀, .founding⟩ [] := ⟨c₀, founded, .refl⟩
    have bound := start.countP_of_run ls ran
    obtain ⟨-, rfl⟩ := Crew.new_eq_ok founded
    have first : (⟨⟨g.workers, .created, false, .empty, [], none⟩, .founding⟩ : Launch α).ahead g =
        4 * g.workers + 9 := by
      simp only [ahead, stageAhead, Crew.ahead, Crew.workersAhead, Crew.closingAhead, Queue.empty,
        List.length_nil, List.map_nil, List.sum_nil, Bool.false_eq_true, if_false]
      omega
    rwa [first] at bound

/-- Three workers are wanted and there is room for two. -/
def cramped : Ground where
  settings := { Settings.standard with workers := 3 }
  spawner k := if k < 2 then .ok () else .error (.other "no more threads")
  listening := .ok 8080

/-- There is room for all. -/
def roomy : Ground := { cramped with spawner := fun _ => .ok () }

/-- Where there is room for two, the first worker falls asleep while the second is started, and the
second asks only when the queue has been closed; both have gone when the error about the third is
returned.  Where there is room, one of the workers falls asleep before the server is given up, and
all three have gone in the end. -/
theorem startup_leaks_no_worker_cramped_roomy :
    (∃ (x : Launch Nat) (es : List (Crew.Event Nat)), History cramped x es ∧
      x.stage = .gone (some (.crew (.workerFailed 2 (.other "no more threads")))) ∧
      Crew.attempts es = [0, 1, 2] ∧ Crew.WoundUp 2 x.crew es) ∧
    Outcome cramped (bind cramped.settings cramped.spawner cramped.listening : Binding Nat) ∧
    ∃ (x y : Launch Nat) (es fs : List (Crew.Event Nat)), History roomy x es ∧
      x.stage = .bound 8080 ∧ Crew.Manned 3 x.crew es ∧ History roomy y (es ++ fs) ∧
      y.stage = .gone none ∧ Crew.WoundUp 3 y.crew (es ++ fs) := by
  have failed : History cramped
      (⟨⟨3, .terminated, false, ⟨[], true, [], []⟩, [.exited, .exited], none⟩,
        .gone (some (.crew (.workerFailed 2 (.other "no more threads"))))⟩ : Launch Nat)
      [.spawned 0, .queue (.slept 0), .spawned 1, .queue (.stirred 0),
        .spawnFailed 2 (.other "no more threads"), .signalled, .queue (.closed true),
        .queue (.dismissed 0), .joined 0, .queue (.dismissed 1), .joined 1, .queue (.drained []),
        .stopped, .returned (.founder 2 (.other "no more threads")), .returned (.caller 0)] :=
    ⟨_, rfl, Machine.reaches_of_run
      [.proceed, .ask 0, .proceed, .stir 0, .proceed, .proceed, .resume 0, .proceed, .ask 1,
        .proceed, .proceed, .proceed, .proceed, .proceed, .proceed] rfl⟩
  have bound : History roomy
      (⟨⟨3, .running, true, ⟨[], false, [1], []⟩, [.asking, .waiting, .asking], none⟩,
        .bound 8080⟩ : Launch Nat)
      [.spawned 0, .spawned 1, .queue (.slept 1), .spawned 2, .handedOver 3] :=
    ⟨_, rfl, Machine.reaches_of_run
      [.proceed, .proceed, .ask 1, .proceed, .proceed, .proceed] rfl⟩
  have gone : History roomy
      (⟨⟨3, .terminated, true, ⟨[], true, [], []⟩, [.exited, .exited, .exited], none⟩,
        .gone none⟩ : Launch Nat)
      (_ ++ [.signalled, .queue (.closed true), .queue (.dismissed 2), .queue (.dismissed 0),
        .joined 0, .queue (.dismissed 1), .joined 1, .joined 2, .queue (.drained []), .stopped,
        .returned (.caller 0)]) :=
    bound.trans (Machine.reaches_of_run
      [.abandon, .proceed, .proceed, .ask 2, .ask 0, .proceed, .resume 1, .proceed, .proceed,
        .proceed, .proceed, .proceed, .proceed] rfl)
  have first : cramped.FailsAt 2 (.other "no more threads") :=
    ⟨by decide, fun j less => if_pos less, rfl⟩
  have able : roomy.Able := fun _ _ => rfl
  obtain ⟨-, undone, -, -, -, outcome⟩ := startup_leaks_no_worker (α := Nat) cramped
  obtain ⟨-, -, complete, -⟩ := startup_leaks_no_worker (α := Nat) roomy
  exact ⟨⟨_, _, failed, rfl, rfl, (undone _ _ first _ _ failed).woundUp _ (.inr rfl)⟩, outcome,
    _, _, _, _, bound, rfl, ((complete able _ _ bound).manned (.inr ⟨8080, rfl⟩)).2, gone, rfl,
    (complete able _ _ gone).woundUp _ rfl⟩

end LineService.Service.Launch
