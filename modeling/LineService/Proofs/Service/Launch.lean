import LineService.Proofs.Crew.Winding
import LineService.Service.Bind

/-!
# Starting a server, step by step

Whoever starts a server starts its workers one after the other, listens, and drops what it has got
when something of this fails; and a server that is ready can be given up.  The workers are at the
queue as soon as they have been started, each at its own pace, and dropping a crew means to shut it
down once more, whoever has done so before.  `Launch.step` lets all of them act in any order.

`Course` says how far a start-up has come and what has been done by then: which workers were tried,
how many of them have been started, and how far the crew has come.  Every step keeps a start-up on
its course (`Course.turn`), so it is there always (`History.course`).
-/

set_option autoImplicit false

namespace LineService.Service

/-- What a server is started with. -/
structure Ground where
  settings : Settings
  /-- Says of every worker whether it can be started. -/
  spawner : Nat → Except Net.Fault Unit
  /-- What listening on the wanted port comes to. -/
  listening : Except Net.Fault UInt16

namespace Ground

/-- The number of workers wanted. -/
def workers (g : Ground) : Nat := g.settings.workers.toNat

/-- Worker `k` is the first that cannot be started. -/
structure FailsAt (g : Ground) (k : Nat) (f : Net.Fault) : Prop where
  wanted : k < g.workers
  able : ∀ j < k, g.spawner j = .ok ()
  unable : g.spawner k = .error f

/-- All workers that are wanted can be started. -/
def Able (g : Ground) : Prop := ∀ j < g.workers, g.spawner j = .ok ()

theorem FailsAt.unique {g : Ground} {j k : Nat} {e f : Net.Fault} (first : g.FailsAt j e)
    (again : g.FailsAt k f) : j = k ∧ e = f := by
  rcases Nat.lt_trichotomy j k with less | rfl | more
  · cases (again.able j less).symm.trans first.unable
  · cases first.unable.symm.trans again.unable
    exact ⟨rfl, rfl⟩
  · cases (first.able k more).symm.trans again.unable

theorem FailsAt.not_able {g : Ground} {k : Nat} {f : Net.Fault} (first : g.FailsAt k f) :
    ¬ g.Able := by
  intro able
  cases (able k first.wanted).symm.trans first.unable

/-- Why a crew is dropped that has all its workers. -/
inductive Cause (g : Ground) : Option BindError → Prop where
  | deaf {f : Net.Fault} (failed : g.listening = .error f) :
      Cause g (some (.listen g.settings.port f))
  /-- The server was ready and has been given up. -/
  | givenUp {port : UInt16} (listens : g.listening = .ok port) : Cause g none

end Ground

/-! ## The steps of a start-up -/

namespace Launch

/-- How far whoever starts a server has come. -/
inductive Stage where
  /-- Starting workers. -/
  | founding
  /-- Shutting the crew down, as worker `k` could not be started. -/
  | failing (k : Nat) (f : Net.Fault)
  /-- The crew has been founded, and listening is next. -/
  | listening
  /-- Ready to serve. -/
  | bound (port : UInt16)
  /-- The crew is dropped, because of an error or without one. -/
  | dropping (cause : Option BindError)
  /-- Dropping the crew shuts it down. -/
  | closing (cause : Option BindError)
  /-- The error has been returned, or what was given up is gone. -/
  | gone (cause : Option BindError)
  deriving DecidableEq, Repr

/-- Who takes which step. -/
inductive Label where
  /-- Whoever starts the server. -/
  | proceed
  /-- The server is given up. -/
  | abandon
  | ask (k : Nat)
  | resume (k : Nat)
  | stir (k : Nat)
  deriving DecidableEq, Repr

/-- A worker wakes for no reason. -/
def Label.isStir : Label → Bool
  | .stir _ => true
  | _ => false

end Launch

/-- A crew and whoever starts a server with it. -/
structure Launch (α : Type) where
  crew : Crew α
  stage : Launch.Stage

namespace Launch

variable {α : Type}

/-- A step of the crew that leads to `stage`. -/
def atCrew (x : Launch α) (l : Crew.Label α) (stage : Stage) :
    Option (Launch α × List (Crew.Event α)) :=
  (x.crew.step l).map fun r => (⟨r.1, stage⟩, r.2)

/-- The next step of a shutdown that leads to `stage` when it is done. -/
def shutDown (x : Launch α) (stage : Stage) : Option (Launch α × List (Crew.Event α)) :=
  if x.crew.life = .terminated then some (⟨x.crew, stage⟩, []) else x.atCrew .advance x.stage

/-- The next step of whoever starts the server. -/
def proceed (g : Ground) (x : Launch α) : Option (Launch α × List (Crew.Event α)) :=
  match x.stage with
  | .founding =>
    if x.crew.workers.length < x.crew.size then
      match g.spawner x.crew.workers.length with
      | .ok () => x.atCrew (.spawn (.ok ())) .founding
      | .error f => x.atCrew (.spawn (.error f)) (.failing x.crew.workers.length f)
    else x.atCrew .handOver .listening
  | .failing k f => x.shutDown (.dropping (some (.crew (.workerFailed k f))))
  | .listening =>
    match g.listening with
    | .ok port => some (⟨x.crew, .bound port⟩, [])
    | .error f => some (⟨x.crew, .dropping (some (.listen g.settings.port f))⟩, [])
  | .bound _ => none
  | .dropping cause =>
    match x.crew.life with
    | .created | .running => x.atCrew (.shutdown 0) (.closing cause)
    | .shuttingDown | .terminated => x.atCrew (.shutdown 0) (.gone cause)
  | .closing cause => x.shutDown (.gone cause)
  | .gone _ => none

/-- The steps of a start-up. -/
def step (g : Ground) (x : Launch α) : Label → Option (Launch α × List (Crew.Event α))
  | .proceed => x.proceed g
  | .abandon =>
    match x.stage with
    | .bound _ => some (⟨x.crew, .dropping none⟩, [])
    | _ => none
  | .ask k => x.atCrew (.ask k) x.stage
  | .resume k => x.atCrew (.resume k) x.stage
  | .stir k => x.atCrew (.stir k) x.stage

/-- What a step needs, leaves and comes to. -/
inductive Turn (g : Ground) (x : Launch α) : Label → Launch α → List (Crew.Event α) → Prop where
  | started {d : Crew α} {fs : List (Crew.Event α)} (founding : x.stage = .founding)
      (able : g.spawner x.crew.workers.length = .ok ())
      (taken : x.crew.step (.spawn (.ok ())) = some (d, fs)) : Turn g x .proceed ⟨d, .founding⟩ fs
  | failed {d : Crew α} {f : Net.Fault} {fs : List (Crew.Event α)} (founding : x.stage = .founding)
      (unable : g.spawner x.crew.workers.length = .error f)
      (taken : x.crew.step (.spawn (.error f)) = some (d, fs)) :
      Turn g x .proceed ⟨d, .failing x.crew.workers.length f⟩ fs
  | founded {d : Crew α} {fs : List (Crew.Event α)} (founding : x.stage = .founding)
      (taken : x.crew.step .handOver = some (d, fs)) : Turn g x .proceed ⟨d, .listening⟩ fs
  | listens {port : UInt16} (listening : x.stage = .listening) (able : g.listening = .ok port) :
      Turn g x .proceed ⟨x.crew, .bound port⟩ []
  | deaf {f : Net.Fault} (listening : x.stage = .listening) (unable : g.listening = .error f) :
      Turn g x .proceed ⟨x.crew, .dropping (some (.listen g.settings.port f))⟩ []
  | givenUp {port : UInt16} (bound : x.stage = .bound port) :
      Turn g x .abandon ⟨x.crew, .dropping none⟩ []
  /-- The founder goes on with shutting the crew down. -/
  | sending {d : Crew α} {fs : List (Crew.Event α)} {k : Nat} {f : Net.Fault}
      (failing : x.stage = .failing k f) (taken : x.crew.step .advance = some (d, fs)) :
      Turn g x .proceed ⟨d, .failing k f⟩ fs
  | sent {k : Nat} {f : Net.Fault} (failing : x.stage = .failing k f)
      (ended : x.crew.life = .terminated) :
      Turn g x .proceed ⟨x.crew, .dropping (some (.crew (.workerFailed k f)))⟩ []
  /-- A crew is dropped that has not been shut down. -/
  | dropped {d : Crew α} {fs : List (Crew.Event α)} {cause : Option BindError}
      (dropping : x.stage = .dropping cause)
      (early : x.crew.life = .created ∨ x.crew.life = .running)
      (taken : x.crew.step (.shutdown 0) = some (d, fs)) : Turn g x .proceed ⟨d, .closing cause⟩ fs
  /-- A crew is dropped that has been shut down before. -/
  | droppedLate {d : Crew α} {fs : List (Crew.Event α)} {cause : Option BindError}
      (dropping : x.stage = .dropping cause)
      (late : x.crew.life = .shuttingDown ∨ x.crew.life = .terminated)
      (taken : x.crew.step (.shutdown 0) = some (d, fs)) : Turn g x .proceed ⟨d, .gone cause⟩ fs
  | closing {d : Crew α} {fs : List (Crew.Event α)} {cause : Option BindError}
      (closing : x.stage = .closing cause) (taken : x.crew.step .advance = some (d, fs)) :
      Turn g x .proceed ⟨d, .closing cause⟩ fs
  | closed {cause : Option BindError} (closing : x.stage = .closing cause)
      (ended : x.crew.life = .terminated) : Turn g x .proceed ⟨x.crew, .gone cause⟩ []
  | asked {d : Crew α} {fs : List (Crew.Event α)} (k : Nat)
      (taken : x.crew.step (.ask k) = some (d, fs)) : Turn g x (.ask k) ⟨d, x.stage⟩ fs
  | resumed {d : Crew α} {fs : List (Crew.Event α)} (k : Nat)
      (taken : x.crew.step (.resume k) = some (d, fs)) : Turn g x (.resume k) ⟨d, x.stage⟩ fs
  | stirred {d : Crew α} {fs : List (Crew.Event α)} (k : Nat)
      (taken : x.crew.step (.stir k) = some (d, fs)) : Turn g x (.stir k) ⟨d, x.stage⟩ fs

variable {g : Ground} {x y : Launch α} {c d : Crew α} {l : Label} {k : Nat} {f : Net.Fault}
  {es fs : List (Crew.Event α)} {stage : Stage} {cause : Option BindError}

/-! ## Every step is a turn -/

theorem atCrew_eq_some {m : Crew.Label α} (taken : x.atCrew m stage = some (y, fs)) :
    ∃ d, x.crew.step m = some (d, fs) ∧ y = ⟨d, stage⟩ := by
  simp only [atCrew, Option.map_eq_some_iff, Prod.mk.injEq] at taken
  obtain ⟨⟨d, gs⟩, took, rfl, rfl⟩ := taken
  exact ⟨d, took, rfl⟩

theorem shutDown_eq_some (taken : x.shutDown stage = some (y, fs)) :
    (x.crew.life = .terminated ∧ y = ⟨x.crew, stage⟩ ∧ fs = []) ∨
      ∃ d, x.crew.step .advance = some (d, fs) ∧ y = ⟨d, x.stage⟩ := by
  simp only [shutDown] at taken
  split at taken
  · rename_i ended
    cases taken
    exact .inl ⟨ended, rfl, rfl⟩
  · exact .inr (atCrew_eq_some taken)

theorem turn_of_proceed (taken : x.proceed g = some (y, fs)) : Turn g x .proceed y fs := by
  unfold proceed at taken
  split at taken
  · rename_i founding
    split at taken
    · split at taken
      · rename_i able
        obtain ⟨d, took, rfl⟩ := atCrew_eq_some taken
        exact .started founding able took
      · rename_i f unable
        obtain ⟨d, took, rfl⟩ := atCrew_eq_some taken
        exact .failed founding unable took
    · obtain ⟨d, took, rfl⟩ := atCrew_eq_some taken
      exact .founded founding took
  · rename_i k f failing
    rcases shutDown_eq_some taken with ⟨ended, rfl, rfl⟩ | ⟨d, took, rfl⟩
    · exact .sent failing ended
    · rw [failing]
      exact .sending failing took
  · rename_i listening
    split at taken
    · rename_i port able
      cases taken
      exact .listens listening able
    · rename_i f unable
      cases taken
      exact .deaf listening unable
  · cases taken
  · rename_i cause dropping
    split at taken
    · rename_i early
      obtain ⟨d, took, rfl⟩ := atCrew_eq_some taken
      exact .dropped dropping (.inl early) took
    · rename_i early
      obtain ⟨d, took, rfl⟩ := atCrew_eq_some taken
      exact .dropped dropping (.inr early) took
    · rename_i late
      obtain ⟨d, took, rfl⟩ := atCrew_eq_some taken
      exact .droppedLate dropping (.inl late) took
    · rename_i late
      obtain ⟨d, took, rfl⟩ := atCrew_eq_some taken
      exact .droppedLate dropping (.inr late) took
  · rename_i cause closing
    rcases shutDown_eq_some taken with ⟨ended, rfl, rfl⟩ | ⟨d, took, rfl⟩
    · exact .closed closing ended
    · rw [closing]
      exact .closing closing took
  · cases taken

/-- **Every step is one of the turns.** -/
theorem turn_of_step (taken : x.step g l = some (y, fs)) : Turn g x l y fs := by
  cases l with
  | proceed => exact turn_of_proceed taken
  | abandon =>
      simp only [step] at taken
      split at taken
      · rename_i port bound
        cases taken
        exact .givenUp bound
      · cases taken
  | ask k =>
      obtain ⟨d, took, rfl⟩ := atCrew_eq_some taken
      exact .asked k took
  | resume k =>
      obtain ⟨d, took, rfl⟩ := atCrew_eq_some taken
      exact .resumed k took
  | stir k =>
      obtain ⟨d, took, rfl⟩ := atCrew_eq_some taken
      exact .stirred k took

/-! ## Histories -/

/-- A start-up can come to be `x`, and `es` is what has happened to its crew. -/
def History (g : Ground) (x : Launch α) (es : List (Crew.Event α)) : Prop :=
  ∃ c₀ : Crew α, Crew.new g.workers = .ok c₀ ∧
    Machine.Reaches (step g) ⟨c₀, .founding⟩ x es

/-- A step of a start-up is a step of its crew, by which no task is given to it, or leaves the crew
alone. -/
theorem Turn.crew (turn : Turn g x l y fs) :
    (y.crew = x.crew ∧ fs = []) ∨ ∃ m, x.crew.step m = some (y.crew, fs) ∧
      ∀ a pick, m ≠ .submit a pick := by
  cases turn with
  | listens | deaf | givenUp | sent | closed => exact .inl ⟨rfl, rfl⟩
  | started _ _ taken | failed _ _ taken | founded _ taken | sending _ taken | dropped _ _ taken
  | droppedLate _ _ taken | closing _ taken | asked _ taken | resumed _ taken | stirred _ taken =>
      exact .inr ⟨_, taken, by simp⟩

namespace History

/-- What holds before the first worker is started and is kept by every turn holds always. -/
theorem induct {motive : (x : Launch α) → (es : List (Crew.Event α)) → History g x es → Prop}
    (start : ∀ history,
      motive ⟨⟨g.workers, .created, false, .empty, [], none⟩, .founding⟩ [] history)
    (next : ∀ {x y : Launch α} {es fs : List (Crew.Event α)} {l : Label}
      (before : History g x es), Turn g x l y fs → ∀ history : History g y (es ++ fs),
      motive x es before → motive y (es ++ fs) history)
    {x : Launch α} {es : List (Crew.Event α)} (history : History g x es) :
    motive x es history := by
  obtain ⟨c₀, founded, reached⟩ := history
  induction reached with
  | refl =>
      obtain ⟨-, rfl⟩ := Crew.new_eq_ok founded
      exact start _
  | tail reached taken ih => exact next ⟨c₀, founded, reached⟩ (turn_of_step taken) _ ih

theorem trans (history : History g x es) (reached : Machine.Reaches (step g) x y fs) :
    History g y (es ++ fs) := by
  obtain ⟨c₀, founded, before⟩ := history
  exact ⟨c₀, founded, before.trans reached⟩

/-- **The crew has a history of its own**, in which no task is given to it. -/
theorem crew (history : History g x es) :
    Crew.History g.workers x.crew es ∧ Crew.accepted es = [] := by
  induction history using History.induct with
  | start history =>
      obtain ⟨c₀, founded, -⟩ := history
      obtain ⟨-, rfl⟩ := Crew.new_eq_ok founded
      exact ⟨⟨_, founded, .refl⟩, rfl⟩
  | next _ turn _ ih =>
      obtain ⟨crew, untasked⟩ := ih
      rcases turn.crew with ⟨same, rfl⟩ | ⟨m, taken, other⟩
      · rw [same, List.append_nil]
        exact ⟨crew, untasked⟩
      · refine ⟨crew.trans (.single taken), ?_⟩
        rw [Crew.accepted_append, untasked, Crew.accepted_of_turn (Crew.turn_of_step taken) other]
        rfl

end History

/-! ## How far a start-up has come -/

/-- Worker `k` could not be started, and those before it were. -/
structure Failed (g : Ground) (k : Nat) (f : Net.Fault) (c : Crew α)
    (es : List (Crew.Event α)) : Prop where
  first : g.FailsAt k f
  started : c.workers.length = k
  tried : Crew.attempts es = List.range (k + 1)

/-- All workers that are wanted have been started. -/
structure Whole (g : Ground) (c : Crew α) (es : List (Crew.Event α)) : Prop where
  able : g.Able
  started : c.workers.length = g.workers
  tried : Crew.attempts es = List.range g.workers

/-- What a start-up has done by the time it has come to a stage. -/
inductive Course (g : Ground) (c : Crew α) (es : List (Crew.Event α)) : Stage → Prop where
  | founding (life : c.life = .created) (able : ∀ j < c.workers.length, g.spawner j = .ok ())
      (tried : Crew.attempts es = List.range c.workers.length) : Course g c es .founding
  | failing {k : Nat} {f : Net.Fault} (failed : Failed g k f c es)
      (late : c.life = .shuttingDown ∨ c.life = .terminated) : Course g c es (.failing k f)
  | failed {k : Nat} {f : Net.Fault} (failed : Failed g k f c es) (ended : c.life = .terminated) :
      Course g c es (.dropping (some (.crew (.workerFailed k f))))
  | failedGone {k : Nat} {f : Net.Fault} (failed : Failed g k f c es)
      (ended : c.life = .terminated) : Course g c es (.gone (some (.crew (.workerFailed k f))))
  | listening (whole : Whole g c es) (running : c.life = .running) : Course g c es .listening
  | bound {port : UInt16} (whole : Whole g c es) (running : c.life = .running)
      (listens : g.listening = .ok port) : Course g c es (.bound port)
  | dropping {cause : Option BindError} (whole : Whole g c es) (running : c.life = .running)
      (why : g.Cause cause) : Course g c es (.dropping cause)
  | closing {cause : Option BindError} (whole : Whole g c es)
      (late : c.life = .shuttingDown ∨ c.life = .terminated) (why : g.Cause cause) :
      Course g c es (.closing cause)
  | gone {cause : Option BindError} (whole : Whole g c es) (ended : c.life = .terminated)
      (why : g.Cause cause) : Course g c es (.gone cause)

theorem Failed.frame (failed : Failed g k f c es) (length : d.workers.length = c.workers.length)
    (nobody : Crew.attempts fs = []) : Failed g k f d (es ++ fs) where
  first := failed.first
  started := length.trans failed.started
  tried := by rw [Crew.attempts_append, nobody, List.append_nil, failed.tried]

theorem Whole.frame (whole : Whole g c es) (length : d.workers.length = c.workers.length)
    (nobody : Crew.attempts fs = []) : Whole g d (es ++ fs) where
  able := whole.able
  started := length.trans whole.started
  tried := by rw [Crew.attempts_append, nobody, List.append_nil, whole.tried]

/-- What workers do at the queue changes nothing of this. -/
theorem Course.frame (course : Course g c es stage) (life : d.life = c.life)
    (length : d.workers.length = c.workers.length) (nobody : Crew.attempts fs = []) :
    Course g d (es ++ fs) stage := by
  cases course with
  | founding fresh able tried =>
      refine .founding (life.trans fresh) (length ▸ able) ?_
      rw [Crew.attempts_append, nobody, List.append_nil, tried, length]
  | failing failed late => exact .failing (failed.frame length nobody) (life ▸ late)
  | failed failed ended => exact .failed (failed.frame length nobody) (life ▸ ended)
  | failedGone failed ended => exact .failedGone (failed.frame length nobody) (life ▸ ended)
  | listening whole running => exact .listening (whole.frame length nobody) (life ▸ running)
  | bound whole running listens =>
      exact .bound (whole.frame length nobody) (life ▸ running) listens
  | dropping whole running why => exact .dropping (whole.frame length nobody) (life ▸ running) why
  | closing whole late why => exact .closing (whole.frame length nobody) (life ▸ late) why
  | gone whole ended why => exact .gone (whole.frame length nobody) (life ▸ ended) why

/-- A step of a worker at the queue leaves a start-up where it is. -/
theorem Course.queueing {m : Crew.Label α} (course : Course g c es stage)
    (queueing : ∃ k, m = .ask k ∨ m = .resume k ∨ m = .stir k)
    (taken : c.step m = some (d, fs)) : Course g d (es ++ fs) stage := by
  obtain ⟨life, length, nobody⟩ := Crew.kept_of_queueing (Crew.turn_of_step taken) queueing
  exact course.frame life length nobody

/-- So does a step of a shutdown, while the crew is being shut down. -/
theorem Course.advance (course : Course g c es stage)
    (winding : (∃ k f, stage = .failing k f) ∨ ∃ cause, stage = .closing cause)
    (taken : c.step .advance = some (d, fs)) : Course g d (es ++ fs) stage := by
  have turn := Crew.turn_of_step taken
  obtain ⟨nobody, length⟩ := Crew.attempts_of_turn turn (by simp)
  rcases winding with ⟨k, f, rfl⟩ | ⟨cause, rfl⟩
  · cases course with
    | failing failed late =>
        exact .failing (failed.frame length nobody) (Crew.late_of_turn turn late)
  · cases course with
    | closing whole late why =>
        exact .closing (whole.frame length nobody) (Crew.late_of_turn turn late) why

/-- The next worker is started. -/
theorem Course.started (course : Course g c es .founding)
    (able : g.spawner c.workers.length = .ok ())
    (taken : c.step (.spawn (.ok ())) = some (d, fs)) : Course g d (es ++ fs) .founding := by
  obtain ⟨-, rfl, rfl⟩ := Crew.of_spawn_ok taken
  cases course with
  | founding fresh before tried =>
      have length : (c.workers ++ [Crew.Worker.asking]).length = c.workers.length + 1 :=
        List.length_append
      refine .founding fresh (fun j less => ?_) ?_
      · rw [length] at less
        rcases Nat.lt_succ_iff_lt_or_eq.mp less with earlier | rfl
        · exact before j earlier
        · exact able
      · rw [Crew.attempts_append, tried, length, List.range_succ]
        rfl

/-- The next worker cannot be started. -/
theorem Course.unable (course : Course g c es .founding) (size : c.size = g.workers)
    (unable : g.spawner c.workers.length = .error f)
    (taken : c.step (.spawn (.error f)) = some (d, fs)) :
    Course g d (es ++ fs) (.failing c.workers.length f) := by
  obtain ⟨-, room, rfl, rfl⟩ := Crew.of_spawn_error taken
  cases course with
  | founding _ before tried =>
      refine .failing ⟨⟨size ▸ room, before, unable⟩, rfl, ?_⟩ (.inl rfl)
      rw [Crew.attempts_append, tried, List.range_succ]
      rfl

/-- All workers have been started. -/
theorem Course.founded (course : Course g c es .founding) (size : c.size = g.workers)
    (taken : c.step .handOver = some (d, fs)) : Course g d (es ++ fs) .listening := by
  obtain ⟨full, rfl, rfl⟩ := Crew.of_handOver taken
  have all := full.trans size
  cases course with
  | founding _ before tried =>
      rw [all] at before tried
      refine .listening ⟨before, all, ?_⟩ rfl
      rw [Crew.attempts_append, tried]
      exact List.append_nil _

/-- Dropping a crew that runs begins to shut it down. -/
theorem Course.dropped (course : Course g c es (.dropping cause))
    (early : c.life = .created ∨ c.life = .running)
    (taken : c.step (.shutdown 0) = some (d, fs)) : Course g d (es ++ fs) (.closing cause) := by
  rcases Crew.of_shutdown taken with ⟨-, -, rfl, rfl⟩ | ⟨late, -⟩
  · cases course with
    | failed _ ended => simp [ended] at early
    | dropping whole _ why => exact .closing (whole.frame rfl rfl) (.inl rfl) why
  · rcases early with early | early <;> simp [early] at late

/-- Dropping a crew that is terminated does nothing. -/
theorem Course.droppedLate (course : Course g c es (.dropping cause))
    (late : c.life = .shuttingDown ∨ c.life = .terminated)
    (taken : c.step (.shutdown 0) = some (d, fs)) : Course g d (es ++ fs) (.gone cause) := by
  rcases Crew.of_shutdown taken with ⟨-, early, -⟩ | ⟨-, rfl, rfl⟩
  · rcases early with early | early <;> simp [early] at late
  · cases course with
    | dropping _ running => simp [running] at late
    | failed failed ended => exact .failedGone (failed.frame rfl rfl) ended

/-- **Every step keeps a start-up on its course.** -/
theorem Course.turn (course : Course g x.crew es x.stage) (turn : Turn g x l y fs)
    (size : x.crew.size = g.workers) : Course g y.crew (es ++ fs) y.stage := by
  cases turn with
  | started founding able taken => exact Course.started (founding ▸ course) able taken
  | failed founding unable taken => exact Course.unable (founding ▸ course) size unable taken
  | founded founding taken => exact Course.founded (founding ▸ course) size taken
  | listens listening able =>
      rw [listening] at course
      cases course with
      | listening whole running => exact .bound (whole.frame rfl rfl) running able
  | deaf listening unable =>
      rw [listening] at course
      cases course with
      | listening whole running => exact .dropping (whole.frame rfl rfl) running (.deaf unable)
  | givenUp bound =>
      rw [bound] at course
      cases course with
      | bound whole running listens =>
          exact .dropping (whole.frame rfl rfl) running (.givenUp listens)
  | sending failing taken => exact Course.advance (failing ▸ course) (.inl ⟨_, _, rfl⟩) taken
  | sent failing ended =>
      rw [failing] at course
      cases course with
      | failing failed => exact .failed (failed.frame rfl rfl) ended
  | dropped dropping early taken => exact Course.dropped (dropping ▸ course) early taken
  | droppedLate dropping late taken => exact Course.droppedLate (dropping ▸ course) late taken
  | closing closing taken => exact Course.advance (closing ▸ course) (.inr ⟨_, rfl⟩) taken
  | closed closing ended =>
      rw [closing] at course
      cases course with
      | closing whole _ why => exact .gone (whole.frame rfl rfl) ended why
  | asked k taken => exact course.queueing ⟨k, .inl rfl⟩ taken
  | resumed k taken => exact course.queueing ⟨k, .inr (.inl rfl)⟩ taken
  | stirred k taken => exact course.queueing ⟨k, .inr (.inr rfl)⟩ taken

/-- **What a start-up has done is what its stage says.** -/
theorem History.course (history : History g x es) : Course g x.crew es x.stage := by
  induction history using History.induct with
  | start => exact .founding rfl (fun j less => absurd less (Nat.not_lt_zero j)) rfl
  | next before turn _ ih => exact ih.turn turn before.crew.1.length_le.1

end Launch

end LineService.Service
