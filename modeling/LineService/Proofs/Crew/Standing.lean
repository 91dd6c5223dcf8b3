import LineService.Proofs.Crew.Turns

/-!
# How far a crew has come

`Standing c es` ties together what the parts of a crew say about its shutdown: its life,
who is shutting it down and how far that is, whether the queue is closed and empty, and
which workers have gone home.  The list `es` is everything that has been done of the
shutdown, from the first call that was heeded to the last worker that was waited for.

Every step keeps a crew in one of these standings (`History.standing`), so what has been
done of a shutdown is always a beginning of one script (`closingScript`): the call, the
closing of the queue, the workers in turn, the release of what is left, the end.
-/

set_option autoImplicit false

namespace LineService.Crew

variable {α : Type} {c d : Crew α}

/-! ## What belongs to a shutdown -/

/-- The event is a part of the work of shutting a crew down. -/
def Event.isClosing : Event α → Bool
  | .signalled | .queue (.closed _) | .joined _ | .queue (.drained _) | .stopped => true
  | _ => false

/-- What has been done of the shutdown. -/
def performed (es : List (Event α)) : List (Event α) := es.filter Event.isClosing

@[simp] theorem performed_append (es fs : List (Event α)) :
    performed (es ++ fs) = performed es ++ performed fs :=
  List.filter_append es fs

/-- A shutdown as far as the queue has been closed and `k` workers have been waited for. -/
def joinedScript (k : Nat) : List (Event α) :=
  [.signalled, .queue (.closed true)] ++ (List.range k).map .joined

theorem joinedScript_succ (k : Nat) :
    (joinedScript (k + 1) : List (Event α)) = joinedScript k ++ [.joined k] := by
  simp [joinedScript, List.range_succ]

theorem joinedScript_mono {k m : Nat} (le : k ≤ m) :
    (joinedScript k : List (Event α)) <+: joinedScript m := by
  induction le with
  | refl => exact List.prefix_rfl
  | step _ ih => exact ih.trans (joinedScript_succ _ ▸ List.prefix_append _ _)

/-- A shutdown of a crew with `m` workers that releases `as`. -/
def closingScript (m : Nat) (as : List α) : List (Event α) :=
  joinedScript m ++ [.queue (.drained as), .stopped]

/-! ## Standings -/

/-- The first `k` workers have gone home. -/
def GoneBefore (c : Crew α) (k : Nat) : Prop := ∀ j, j < k → c.workers[j]? = some .exited

theorem GoneBefore.le_length {k : Nat} (gone : GoneBefore c k) : k ≤ c.workers.length := by
  refine Nat.le_of_not_lt fun more => ?_
  have here := gone _ more
  simp at here

/-- How far a crew has come, and what has been done of its shutdown by then. -/
inductive Standing (c : Crew α) : List (Event α) → Prop where
  | founding (life : c.life = .created) (closer : c.closer = none)
      (opened : c.queue.closed = false) (unready : c.ready = false) : Standing c []
  | running (life : c.life = .running) (closer : c.closer = none)
      (opened : c.queue.closed = false) (ready : c.ready = true) : Standing c []
  | closing (who : Closer) (life : c.life = .shuttingDown)
      (closer : c.closer = some (who, .closing)) (opened : c.queue.closed = false) :
      Standing c [.signalled]
  | joining (who : Closer) (k : Nat) (life : c.life = .shuttingDown)
      (closer : c.closer = some (who, .joining k)) (shut : c.queue.closed = true)
      (gone : GoneBefore c k) : Standing c (joinedScript k)
  | draining (who : Closer) (life : c.life = .shuttingDown)
      (closer : c.closer = some (who, .draining)) (shut : c.queue.closed = true)
      (gone : GoneBefore c c.workers.length) : Standing c (joinedScript c.workers.length)
  | ending (who : Closer) (as : List α) (life : c.life = .shuttingDown)
      (closer : c.closer = some (who, .ending)) (shut : c.queue.closed = true)
      (gone : GoneBefore c c.workers.length) (nothing : c.queue.tasks = []) :
      Standing c (joinedScript c.workers.length ++ [.queue (.drained as)])
  | ended (as : List α) (life : c.life = .terminated) (closer : c.closer = none)
      (shut : c.queue.closed = true) (gone : GoneBefore c c.workers.length)
      (nothing : c.queue.tasks = []) : Standing c (closingScript c.workers.length as)

namespace Standing

variable {es fs : List (Event α)} {l : Label α}

theorem of_created (standing : Standing c es) (life : c.life = .created) :
    es = [] ∧ c.closer = none ∧ c.queue.closed = false ∧ c.ready = false := by
  cases standing <;> simp_all

theorem of_running (standing : Standing c es) (life : c.life = .running) :
    es = [] ∧ c.closer = none ∧ c.queue.closed = false := by
  cases standing <;> simp_all

theorem of_closing (standing : Standing c es) {who : Closer}
    (stage : c.closer = some (who, .closing)) :
    es = [.signalled] ∧ c.life = .shuttingDown ∧ c.queue.closed = false := by
  cases standing <;> simp_all

theorem of_joining (standing : Standing c es) {who : Closer} {k : Nat}
    (stage : c.closer = some (who, .joining k)) :
    es = joinedScript k ∧ c.life = .shuttingDown ∧ c.queue.closed = true ∧
      GoneBefore c k := by
  cases standing <;> simp_all

theorem of_draining (standing : Standing c es) {who : Closer}
    (stage : c.closer = some (who, .draining)) :
    es = joinedScript c.workers.length ∧ c.life = .shuttingDown ∧ c.queue.closed = true ∧
      GoneBefore c c.workers.length := by
  cases standing <;> simp_all

theorem of_ending (standing : Standing c es) {who : Closer}
    (stage : c.closer = some (who, .ending)) :
    (∃ as, es = joinedScript c.workers.length ++ [.queue (.drained as)]) ∧
      c.life = .shuttingDown ∧ c.queue.closed = true ∧ GoneBefore c c.workers.length ∧
      c.queue.tasks = [] := by
  cases standing <;> simp_all

theorem of_terminated (standing : Standing c es) (life : c.life = .terminated) :
    (∃ as, es = closingScript c.workers.length as) ∧ c.queue.closed = true ∧
      GoneBefore c c.workers.length ∧ c.queue.tasks = [] := by
  cases standing with
  | ended as _ _ shut gone nothing => exact ⟨⟨as, rfl⟩, shut, gone, nothing⟩
  | _ => simp_all

/-- A crew that can be used and is not being shut down has been handed to somebody. -/
theorem running_of_ready (standing : Standing c es) (ready : c.ready = true)
    (early : c.life = .created ∨ c.life = .running) : c.life = .running := by
  cases standing <;> simp_all

theorem nobody_of_early (standing : Standing c es)
    (early : c.life = .created ∨ c.life = .running) : c.closer = none := by
  cases standing <;> simp_all

/-- As long as the queue is open nothing has been done but perhaps the call. -/
theorem of_open (standing : Standing c es) (opened : c.queue.closed = false) :
    (es = [] ∧ (c.life = .created ∨ c.life = .running)) ∨
      (es = [.signalled] ∧ c.life = .shuttingDown ∧ ∃ who, c.closer = some (who, .closing)) := by
  cases standing <;> simp_all

/-- Between the closing of the queue and the end somebody is in charge. -/
theorem of_closed (standing : Standing c es) (shut : c.queue.closed = true)
    (alive : c.life ≠ .terminated) :
    ∃ who stage, c.closer = some (who, stage) ∧ stage ≠ .closing := by
  cases standing with
  | joining who k life closer => exact ⟨who, _, closer, by simp⟩
  | draining who life closer => exact ⟨who, _, closer, by simp⟩
  | ending who as life closer => exact ⟨who, _, closer, by simp⟩
  | _ => simp_all

theorem begun_iff (standing : Standing c es) :
    .signalled ∈ es ↔ c.life = .shuttingDown ∨ c.life = .terminated := by
  cases standing <;> simp_all [joinedScript, closingScript]

theorem closed_iff (standing : Standing c es) :
    .queue (.closed true) ∈ es ↔ c.queue.closed = true := by
  cases standing <;> simp_all [joinedScript, closingScript]

theorem stopped_iff (standing : Standing c es) : .stopped ∈ es ↔ c.life = .terminated := by
  cases standing <;> simp_all [joinedScript, closingScript]

/-- A step that does nothing of the shutdown. -/
theorem still (standing : Standing c es) (nothing : performed fs = []) :
    Standing c (es ++ performed fs) := by
  rw [nothing, List.append_nil]
  exact standing

/-- What leaves the shutdown alone leaves a crew where it stands: workers that have gone
stay gone, and a closed queue gets no task. -/
theorem frame (standing : Standing c es) (life : d.life = c.life) (closer : d.closer = c.closer)
    (ready : d.ready = c.ready) (closed : d.queue.closed = c.queue.closed)
    (nothing : c.queue.closed = true → c.queue.tasks = [] → d.queue.tasks = [])
    (length : d.workers.length = c.workers.length)
    (gone : ∀ j : Nat, c.workers[j]? = some .exited → d.workers[j]? = some .exited) :
    Standing d es := by
  have before : ∀ {k}, GoneBefore c k → GoneBefore d k :=
    fun all j less => gone j (all j less)
  cases standing with
  | founding life' closer' opened unready =>
      exact .founding (life.trans life') (closer.trans closer') (closed.trans opened)
        (ready.trans unready)
  | running life' closer' opened ready' =>
      exact .running (life.trans life') (closer.trans closer') (closed.trans opened)
        (ready.trans ready')
  | closing who life' closer' opened =>
      exact .closing who (life.trans life') (closer.trans closer') (closed.trans opened)
  | joining who k life' closer' shut all =>
      exact .joining who k (life.trans life') (closer.trans closer') (closed.trans shut)
        (before all)
  | draining who life' closer' shut all =>
      rw [← length] at all ⊢
      exact .draining who (life.trans life') (closer.trans closer') (closed.trans shut)
        (before all)
  | ending who as life' closer' shut all empty =>
      rw [← length] at all ⊢
      exact .ending who as (life.trans life') (closer.trans closer') (closed.trans shut)
        (before all) (nothing shut empty)
  | ended as life' closer' shut all empty =>
      rw [← length] at all ⊢
      exact .ended as (life.trans life') (closer.trans closer') (closed.trans shut)
        (before all) (nothing shut empty)

end Standing

/-! ## Every step keeps the standing -/

/-- When a worker that has not gone changes, those that had gone have, and it may be gone too. -/
theorem exited_set_iff {workers : List (Worker α)} {j k : Nat} {v w : Worker α}
    (here : workers[j]? = some v) (present : v ≠ .exited) :
    (workers.set j w)[k]? = some .exited ↔
      workers[k]? = some .exited ∨ (k = j ∧ w = .exited) := by
  have less : j < workers.length := (List.getElem?_eq_some_iff.mp here).1
  by_cases same : k = j
  · subst same
    rw [List.getElem?_set_self less, here]
    simp [present]
  · simp [List.getElem?_set_ne (Ne.symm same), same]

theorem Comes.not_close {l : Label α} {k : Nat} {m : Queue.Label α} (comes : Comes c l k m) :
    m ≠ .close := by
  cases comes <;> simp

/-- A step of the queue by a worker leaves the shutdown alone. -/
theorem Standing.atQueue {es : List (Event α)} (standing : Standing c es) {k : Nat}
    {w v : Worker α} {m : Queue.Label α} {q : Queue α} {fs : List (Queue.Event α)}
    (here : c.workers[k]? = some v) (present : v ≠ .exited) (other : m ≠ .close)
    (queued : c.queue.step m = some (q, fs)) :
    Standing { c with queue := q, workers := c.workers.set k w } es := by
  have turn := Queue.turn_of_step queued
  exact standing.frame rfl rfl rfl (turn.closed_eq other) turn.tasks_eq_nil (by simp)
    fun j gone => (exited_set_iff here present).mpr (.inl gone)

theorem Standing.turn {es fs : List (Event α)} {l : Label α} (standing : Standing c es)
    (turn : Turn c l d fs) : Standing d (es ++ performed fs) := by
  cases turn with
  | spawned fresh room =>
      obtain ⟨rfl, closer, opened, unready⟩ := standing.of_created fresh
      exact .founding fresh closer opened unready
  | spawnFailed f fresh room =>
      obtain ⟨rfl, closer, opened, unready⟩ := standing.of_created fresh
      exact .closing _ rfl rfl opened
  | handedOver fresh full =>
      obtain ⟨rfl, closer, opened, unready⟩ := standing.of_created fresh
      exact .running rfl closer opened rfl
  | accepted task pick q ready opened queued =>
      have turn := Queue.turn_of_step queued
      refine still ?_ rfl
      exact standing.frame rfl rfl rfl (turn.closed_eq (by simp)) turn.tasks_eq_nil rfl
        fun _ gone => gone
  | refused => exact standing.still rfl
  | signalled who ready early =>
      -- Nobody but its founder knows a crew before it runs.
      obtain ⟨rfl, closer, opened⟩ := standing.of_running (standing.running_of_ready ready early)
      exact .closing _ rfl rfl opened
  | returned => exact standing.still rfl
  | closed who stage =>
      obtain ⟨rfl, life, opened⟩ := standing.of_closing stage
      rw [Queue.close_of_open opened]
      exact .joining who 0 life rfl rfl fun j less => absurd less (Nat.not_lt_zero j)
  | joined who k stage gone =>
      obtain ⟨rfl, life, shut, before⟩ := standing.of_joining stage
      change Standing _ (joinedScript k ++ [.joined k])
      rw [← joinedScript_succ]
      refine .joining who (k + 1) life rfl shut fun j less => ?_
      rcases Nat.lt_succ_iff_lt_or_eq.mp less with earlier | rfl
      · exact before j earlier
      · exact gone
  | joinedAll who k stage nobody =>
      obtain ⟨rfl, life, shut, before⟩ := standing.of_joining stage
      -- The workers that have gone are all that there are.
      have all : k = c.workers.length :=
        Nat.le_antisymm before.le_length (List.getElem?_eq_none_iff.mp nobody)
      subst all
      refine still ?_ rfl
      exact .draining who life rfl shut before
  | drained who stage =>
      obtain ⟨rfl, life, shut, all⟩ := standing.of_draining stage
      exact .ending who c.queue.tasks life rfl shut all rfl
  | ended who stage =>
      obtain ⟨⟨as, rfl⟩, -, shut, all, nothing⟩ := standing.of_ending stage
      change Standing _ (joinedScript c.workers.length ++ [.queue (.drained as)] ++ [.stopped])
      rw [List.append_assoc]
      exact .ended as rfl rfl shut all nothing
  | slept q comes looked =>
      obtain ⟨v, here, present, -⟩ := comes.worker
      exact (standing.atQueue here present comes.not_close looked).still rfl
  | handed a q comes looked =>
      obtain ⟨v, here, present, -⟩ := comes.worker
      exact (standing.atQueue here present comes.not_close looked).still rfl
  | dismissed q comes looked =>
      obtain ⟨v, here, present, -⟩ := comes.worker
      exact (standing.atQueue here present comes.not_close looked).still rfl
  | stirred k q waiting woke =>
      exact (standing.atQueue waiting (by simp) (by simp) woke).still rfl
  | finished k task outcome busy =>
      refine still ?_ rfl
      exact standing.frame rfl rfl rfl rfl (fun _ nothing => nothing) (by simp)
        fun j gone => (exited_set_iff busy (by simp)).mpr (.inl gone)

/-- **A crew always stands somewhere**, and what has been done of its shutdown is what that
standing says. -/
theorem History.standing {n : Nat} {es : List (Event α)} (history : History n c es) :
    Standing c (performed es) := by
  induction history using History.induct with
  | start => exact .founding rfl rfl rfl rfl
  | next _ turn _ ih =>
      rw [performed_append]
      exact ih.turn turn

end LineService.Crew
