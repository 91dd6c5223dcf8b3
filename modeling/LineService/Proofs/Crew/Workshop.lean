import LineService.Crew.Workshop
import LineService.Proofs.Crew.Winding

/-!
# Workshops are crews

A workshop adds to a crew what its tasks do, and nothing to what a crew does: a run of a workshop is
a run of its crew with the same events (`Workshop.reaches_crew`), so a workshop whose crew has a
history has one (`Workshop.history`), and what is known of crews is known of workshops.

A desk stands for a task that is being carried out.  Exactly the workers that are busy have one, and
each has one only, from the founding on (`seated_new`, `Seated.reaches`).  So a worker that is busy
performs the next act of its job, or it waits for a gate that has not been opened
(`Seated.goes_on`).
-/

set_option autoImplicit false

namespace LineService.Crew.Workshop

variable {w v : Workshop} {l : Label} {es fs : List (Event Job)} {n k : Nat}

/-! ## The crew of a workshop -/

theorem crewStep_eq_some {m : Crew.Label Job} (taken : w.crewStep m = some (v, es)) :
    w.crew.step m = some (v.crew, es) ∧ v = { w with
      crew := v.crew
      desks := es.foldl seat w.desks } := by
  obtain ⟨⟨c, fs⟩, stepped, same⟩ := Option.map_eq_some_iff.mp taken
  cases same
  exact ⟨stepped, rfl⟩

/-- What a step of a workshop is: a step of the crew, or a change that the crew has no part in. -/
inductive Turn (w : Workshop) : Label → Workshop → List (Event Job) → Prop where
  | crew {m : Crew.Label Job} {c : Crew Job} {es : List (Event Job)}
      (open_ : ∀ k outcome, m ≠ .finish k outcome) (stepped : w.crew.step m = some (c, es)) :
      Turn w (.crew m) { w with crew := c, desks := es.foldl seat w.desks } es
  | opened (gate : String) : Turn w (.openGate gate) { w with gates := gate :: w.gates } []
  | acted {k : Nat} {d d' : Desk} {t : Tally} (there : w.desks.lookup k = some d)
      (turned : d.turn w.gates.contains w.tally = some (t, .inl d')) :
      Turn w (.work k)
        { w with tally := t, desks := (k, d') :: w.desks.filter (·.1 != k) } []
  | finished {k : Nat} {d : Desk} {t : Tally} {outcome : Outcome} {c : Crew Job}
      {es : List (Event Job)} (there : w.desks.lookup k = some d)
      (turned : d.turn w.gates.contains w.tally = some (t, .inr outcome))
      (stepped : w.crew.step (.finish k outcome) = some (c, es)) :
      Turn w (.work k) { w with
        crew := c
        tally := t
        desks := es.foldl seat (w.desks.filter (·.1 != k)) } es

theorem turn_of_step (taken : w.step l = some (v, es)) : Turn w l v es := by
  cases l with
  | crew m =>
      have open_ : ∀ k outcome, m ≠ .finish k outcome := by
        rintro k outcome rfl
        cases taken
      have stepped : w.crewStep m = some (v, es) := by
        cases m with
        | finish k outcome => cases taken
        | _ => exact taken
      obtain ⟨stepped, same⟩ := crewStep_eq_some stepped
      rw [same]
      exact .crew open_ stepped
  | openGate gate =>
      cases taken
      exact .opened gate
  | work k =>
      simp only [step] at taken
      split at taken
      · cases taken
      · rename_i d there
        split at taken
        · cases taken
        · rename_i t d' turned
          cases taken
          exact .acted there turned
        · rename_i t outcome turned
          obtain ⟨stepped, same⟩ := crewStep_eq_some taken
          rw [same]
          exact .finished there turned stepped

/-- A step of a workshop is a run of its crew, with the same events. -/
theorem reaches_of_turn (turn : Turn w l v es) :
    Machine.Reaches Crew.step w.crew v.crew es := by
  cases turn with
  | crew _ stepped => exact .single stepped
  | opened | acted => exact .refl
  | finished _ _ stepped => exact .single stepped

/-- **A run of a workshop is a run of its crew, with the same events.** -/
theorem reaches_crew (reached : Machine.Reaches step w v es) :
    Machine.Reaches Crew.step w.crew v.crew es := by
  induction reached with
  | refl => exact .refl
  | tail _ taken ih => exact ih.trans (reaches_of_turn (turn_of_step taken))

/-- What a workshop does belongs to the history of its crew. -/
theorem history (history : History n w.crew es) (reached : Machine.Reaches step w v fs) :
    History n v.crew (es ++ fs) :=
  history.trans (reaches_crew reached)

theorem reaches_settle (w : Workshop) : Machine.Reaches step w w.settle.1 w.settle.2 :=
  Machine.reaches_settle step nextTurn w.stepBound .refl

/-- Taking a step and letting the workshop run until it rests belongs to the history too. -/
theorem history_stepAndSettle (known : History n w.crew es) (l : Label) :
    History n (w.stepAndSettle l).1.crew (es ++ (w.stepAndSettle l).2) := by
  rw [stepAndSettle]
  cases taken : w.step l with
  | none => simpa using known
  | some r => exact history known ((Machine.Reaches.single taken).trans (reaches_settle r.1))

/-! ## Desks -/

/-- Worker `k` is carrying out a task. -/
def Busy (workers : List (Worker Job)) (k : Nat) : Prop := ∃ job, workers[k]? = some (.busy job)

/-- Exactly the busy workers have a desk, and each has one. -/
structure Seated (w : Workshop) : Prop where
  once : (w.desks.map Prod.fst).Nodup
  busy : ∀ k, k ∈ w.desks.map Prod.fst ↔ Busy w.crew.workers k

/-- Before there is any task nobody is busy, and nobody has a desk. -/
theorem seated_new {c : Crew Job} (history : History n c es) (untasked : accepted es = []) :
    Seated (new c) where
  once := List.nodup_nil
  busy k := by
    refine iff_of_false List.not_mem_nil ?_
    rintro ⟨job, busy⟩
    exact (history.unused untasked).idle k job busy

/-- A worker that becomes another is busy or not as it has become, and the others stay so. -/
theorem busy_set_iff {workers : List (Worker Job)} {j k : Nat} {x y : Worker Job}
    (there : workers[k]? = some x) :
    Busy (workers.set k y) j ↔ (j = k ∧ ∃ job, y = .busy job) ∨ (j ≠ k ∧ Busy workers j) := by
  by_cases same : j = k
  · subst same
    have less : j < workers.length := (List.getElem?_eq_some_iff.mp there).1
    simp [Busy, List.getElem?_set_self less]
  · simp [Busy, List.getElem?_set_ne (Ne.symm same), same]

theorem not_busy_of_comes {c : Crew Job} {m : Crew.Label Job} {x : Queue.Label Job}
    (comes : Comes c m k x) : ¬ Busy c.workers k := by
  rintro ⟨job, busy⟩
  obtain ⟨y, there, -, nothing⟩ := comes.worker
  cases there.symm.trans busy
  cases nothing

/-- A worker that comes away from the queue without a task leaves everybody as busy as before. -/
theorem busy_set_of_idle {workers : List (Worker Job)} {y : Worker Job} {x : Worker Job}
    (there : workers[k]? = some x) (before : ¬ Busy workers k) (after : ∀ job, y ≠ .busy job)
    (j : Nat) : Busy (workers.set k y) j ↔ Busy workers j := by
  rw [busy_set_iff there]
  constructor
  · rintro (⟨-, job, busy⟩ | ⟨-, busy⟩)
    · exact absurd busy (after job)
    · exact busy
  · intro busy
    exact .inr ⟨fun same => before (same ▸ busy), busy⟩

theorem Seated.frame {c : Crew Job} {t : Tally} {gates : List String} (seated : Seated w)
    (same : ∀ j, Busy c.workers j ↔ Busy w.crew.workers j) : Seated ⟨c, t, gates, w.desks⟩ where
  once := seated.once
  busy j := (seated.busy j).trans (same j).symm

/-- A step of the crew seats the worker it hands a job, and nobody else. -/
theorem Seated.crew {m : Crew.Label Job} {c : Crew Job} (seated : Seated w)
    (turn : Crew.Turn w.crew m c es) (open_ : ∀ k outcome, m ≠ .finish k outcome) :
    Seated { w with crew := c, desks := es.foldl seat w.desks } := by
  cases turn with
  | spawned =>
      refine seated.frame fun j => ?_
      exact exists_congr fun job => getElem?_concat_asking (by simp)
  | slept q comes looked | dismissed q comes looked =>
      obtain ⟨x, there, -, -⟩ := comes.worker
      exact seated.frame (busy_set_of_idle there (not_busy_of_comes comes) (by simp))
  | stirred k q waiting woke =>
      refine seated.frame (busy_set_of_idle waiting ?_ (by simp))
      rintro ⟨job, busy⟩
      cases waiting.symm.trans busy
  | @handed _ k _ job q comes looked =>
      obtain ⟨x, there, -, -⟩ := comes.worker
      have free := not_busy_of_comes comes
      have unseated : k ∉ w.desks.map Prod.fst := mt (seated.busy k).mp free
      refine ⟨List.nodup_cons.mpr ⟨unseated, seated.once⟩, fun j => ?_⟩
      dsimp only
      rw [busy_set_iff there, ← seated.busy j]
      change j ∈ k :: w.desks.map Prod.fst ↔ _
      rw [List.mem_cons]
      constructor
      · rintro (rfl | busy)
        · exact .inl ⟨rfl, job, rfl⟩
        · exact .inr ⟨fun same => unseated (same ▸ busy), busy⟩
      · rintro (⟨rfl, -⟩ | ⟨-, busy⟩)
        · exact .inl rfl
        · exact .inr busy
  | finished k task outcome busy => exact absurd rfl (open_ k outcome)
  | _ => exact seated.frame fun j => Iff.rfl

/-- Who leaves a desk leaves the others where they are. -/
theorem map_fst_filter (desks : List (Nat × Desk)) (k : Nat) :
    (desks.filter (·.1 != k)).map Prod.fst = (desks.map Prod.fst).filter (· != k) := by
  rw [List.filter_map]
  rfl

/-- A desk is found under every number there is one for. -/
theorem isSome_lookup_iff {desks : List (Nat × Desk)} :
    (desks.lookup k).isSome ↔ k ∈ desks.map Prod.fst := by
  rw [List.lookup_isSome_iff, List.mem_map]
  exact exists_congr fun e => and_congr_right fun _ => by rw [beq_iff_eq, eq_comm]

theorem Seated.turn (seated : Seated w) (turn : Turn w l v es) : Seated v := by
  cases turn with
  | crew open_ stepped => exact seated.crew (Crew.turn_of_step stepped) open_
  | opened gate => exact seated.frame fun j => Iff.rfl
  | @acted k d d' t there turned =>
      have held : k ∈ w.desks.map Prod.fst :=
        isSome_lookup_iff.mp (by rw [there]; rfl)
      constructor
      · dsimp only
        rw [List.map_cons, map_fst_filter, List.nodup_cons]
        exact ⟨by simp, seated.once.filter _⟩
      · intro j
        dsimp only
        rw [← seated.busy j, List.map_cons, map_fst_filter, List.mem_cons, List.mem_filter]
        by_cases same : j = k
        · simp [same, held]
        · simp [same]
  | @finished k d t outcome c fs there turned stepped =>
      cases Crew.turn_of_step stepped with
      | finished _ task _ busy =>
          constructor
          · change ((w.desks.filter (·.1 != k)).map Prod.fst).Nodup
            rw [map_fst_filter]
            exact seated.once.filter _
          · intro j
            change j ∈ (w.desks.filter (·.1 != k)).map Prod.fst ↔ _
            rw [map_fst_filter, List.mem_filter, seated.busy j, busy_set_iff busy]
            simp [and_comm]
      | slept _ comes | handed _ _ comes | dismissed _ comes => cases comes

/-- **In every run of a workshop exactly the busy workers have a desk.** -/
theorem Seated.reaches (seated : Seated w) (reached : Machine.Reaches step w v es) :
    Seated v := by
  induction reached with
  | refl => exact seated
  | tail _ taken ih => exact ih.turn (turn_of_step taken)

/-- A job stops in its course only at a gate that has not been opened. -/
theorem turn_eq_none_iff {isOpen : String → Bool} {d : Desk} {t : Tally} :
    d.turn isOpen t = none ↔ ∃ gate rest, d.left = .await gate :: rest ∧ isOpen gate = false := by
  obtain ⟨left, counted⟩ := d
  cases left with
  | nil => simp [Desk.turn]
  | cons act rest =>
      cases act with
      | enter | increment =>
          simp only [Desk.turn]
          split <;> simp
      | decrement =>
          simp only [Desk.turn]
          split <;> simp
      | await gate =>
          cases shut : isOpen gate <;> simp [Desk.turn, shut]
      | fail p => simp [Desk.turn]

/-- **A busy worker performs the next act of its job**, unless it waits for a gate that has not been
opened. -/
theorem Seated.goes_on (seated : Seated w) (busy : Busy w.crew.workers k) :
    (w.step (.work k)).isSome ∨
      ∃ d gate rest, w.desks.lookup k = some d ∧ d.left = .await gate :: rest ∧
        gate ∉ w.gates := by
  obtain ⟨d, found⟩ := Option.isSome_iff_exists.mp
    (isSome_lookup_iff.mpr ((seated.busy k).mpr busy))
  obtain ⟨job, there⟩ := busy
  simp only [step, found]
  cases turned : d.turn w.gates.contains w.tally with
  | none =>
      obtain ⟨gate, rest, waits, shut⟩ := turn_eq_none_iff.mp turned
      exact .inr ⟨d, gate, rest, rfl, waits, by simpa using shut⟩
  | some r =>
      left
      obtain ⟨t, d' | outcome⟩ := r
      · rfl
      · simp [crewStep, Crew.step, there]

end LineService.Crew.Workshop
