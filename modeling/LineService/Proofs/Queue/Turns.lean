import LineService.Queue

/-!
# What a step does to a queue

`Turn` says of every step which queue it needs, which queue it leaves and what has
happened: one constructor for each thing that can happen at a queue.  Every step
is one of them (`turn_of_step`), so what all of them keep is kept by every step.

A consumer that comes forward looks at the queue either for the first time or after it
has been woken.  Both ways of looking end alike: it falls asleep at an open, empty queue,
takes the first task of an open one, and is dismissed by a closed one.
-/

set_option autoImplicit false

namespace LineService.Queue

variable {α : Type} {q q' : Queue α}

/-- Consumer `k` looks at the queue by taking this step. -/
inductive Forward (q : Queue α) : Label α → Nat → Prop where
  | arrive (k : Nat) (idle : k ∉ q.asleep ∧ k ∉ q.woken) : Forward q (.arrive k) k
  | resume (k : Nat) (called : k ∈ q.woken) : Forward q (.resume k) k

/-- What a step needs, leaves and comes to. -/
inductive Turn (q : Queue α) : Label α → Queue α → List (Event α) → Prop where
  | alone (a : α) (pick : Nat) (opened : q.closed = false) (nobody : q.asleep = []) :
      Turn q (.enqueue a pick) { q with tasks := q.tasks ++ [a] } [.accepted a]
  | waking (a : α) (pick k : Nat) (opened : q.closed = false) (sleeps : k ∈ q.asleep) :
      Turn q (.enqueue a pick)
        { q with
          tasks := q.tasks ++ [a]
          asleep := q.asleep.erase k
          woken := q.woken ++ [k] }
        [.accepted a]
  | refused (a : α) (pick : Nat) (shut : q.closed = true) :
      Turn q (.enqueue a pick) q [.refused a]
  | slept {l : Label α} {k : Nat} (forward : Forward q l k) (opened : q.closed = false)
      (nothing : q.tasks = []) :
      Turn q l { q with asleep := q.asleep ++ [k], woken := q.woken.erase k } [.slept k]
  | handed {l : Label α} {k : Nat} (a : α) (rest : List α) (forward : Forward q l k)
      (opened : q.closed = false) (first : q.tasks = a :: rest) :
      Turn q l { q with tasks := rest, woken := q.woken.erase k } [.handed k a]
  | dismissed {l : Label α} {k : Nat} (forward : Forward q l k) (shut : q.closed = true) :
      Turn q l { q with woken := q.woken.erase k } [.dismissed k]
  | stirred (k : Nat) (sleeps : k ∈ q.asleep) :
      Turn q (.stir k) { q with asleep := q.asleep.erase k, woken := q.woken ++ [k] }
        [.stirred k]
  | closed (opened : q.closed = false) :
      Turn q .close { q with closed := true, asleep := [], woken := q.woken ++ q.asleep }
        [.closed true]
  | closedBefore (shut : q.closed = true) : Turn q .close q [.closed false]
  | drained : Turn q .drain { q with tasks := [] } [.drained q.tasks]
  | measured : Turn q .measure q [.measured q.tasks.length]

/-! ## What the operations come to -/

theorem enqueue_of_closed (a : α) (pick : Nat) (shut : q.closed = true) :
    q.enqueue a pick = .error a := by
  simp [enqueue, shut]

theorem enqueue_of_open (a : α) (pick : Nat) (opened : q.closed = false) :
    q.enqueue a pick = .ok (wakeOne { q with tasks := q.tasks ++ [a] } pick) := by
  simp [enqueue, opened]

/-- Waking one of the sleepers, whichever is picked, wakes one of them if there is one. -/
theorem wakeOne_cases (q : Queue α) (pick : Nat) :
    (q.asleep = [] ∧ q.wakeOne pick = q) ∨
      ∃ k ∈ q.asleep,
        q.wakeOne pick = { q with asleep := q.asleep.erase k, woken := q.woken ++ [k] } := by
  unfold wakeOne
  cases picked : q.asleep[pick % q.asleep.length]? with
  | none =>
      have bound := List.getElem?_eq_none_iff.mp picked
      rcases Nat.eq_zero_or_pos q.asleep.length with nobody | somebody
      · exact .inl ⟨List.length_eq_zero_iff.mp nobody, rfl⟩
      · exact absurd (Nat.mod_lt pick somebody) (Nat.not_lt.mpr bound)
  | some k => exact .inr ⟨k, List.mem_of_getElem? picked, rfl⟩

theorem look_of_closed (k : Nat) (shut : q.closed = true) : q.look k = (q, [.dismissed k]) := by
  simp [look, mustWait, take, shut]

theorem look_of_nil (k : Nat) (opened : q.closed = false) (nothing : q.tasks = []) :
    q.look k = ({ q with asleep := q.asleep ++ [k] }, [.slept k]) := by
  simp [look, mustWait, opened, nothing]

theorem look_of_cons (k : Nat) {a : α} {rest : List α} (opened : q.closed = false)
    (first : q.tasks = a :: rest) : q.look k = ({ q with tasks := rest }, [.handed k a]) := by
  simp [look, mustWait, take, opened, first]

theorem close_of_closed (shut : q.closed = true) : q.close = (false, q) := by
  simp [close, shut]

theorem close_of_open (opened : q.closed = false) :
    q.close =
      (true, { q with closed := true, asleep := [], woken := q.woken ++ q.asleep }) := by
  simp [close, wakeAll, opened]

/-! ## Every step is a turn -/

theorem turn_of_enqueue {a : α} {pick : Nat} {es : List (Event α)}
    (taken : q.step (.enqueue a pick) = some (q', es)) : Turn q (.enqueue a pick) q' es := by
  cases shut : q.closed with
  | true =>
      simp only [step, enqueue_of_closed a pick shut] at taken
      cases taken
      exact .refused a pick shut
  | false =>
      simp only [step, enqueue_of_open a pick shut] at taken
      cases taken
      rcases wakeOne_cases { q with tasks := q.tasks ++ [a] } pick with
        ⟨nobody, same⟩ | ⟨k, sleeps, woke⟩
      · rw [same]
        exact .alone a pick shut nobody
      · rw [woke]
        exact .waking a pick k shut sleeps

/-- A consumer that has come forward looks at a queue at which it is no longer on its
way. -/
theorem turn_of_look {l : Label α} {k : Nat} {es : List (Event α)} (forward : Forward q l k)
    (looked : look { q with woken := q.woken.erase k } k = (q', es)) : Turn q l q' es := by
  cases shut : q.closed with
  | true =>
      rw [look_of_closed k (by exact shut)] at looked
      cases looked
      exact .dismissed forward shut
  | false =>
      cases held : q.tasks with
      | nil =>
          rw [look_of_nil k (by exact shut) (by exact held)] at looked
          cases looked
          exact .slept forward shut held
      | cons a rest =>
          rw [look_of_cons k (by exact shut) (by exact held)] at looked
          cases looked
          exact .handed a rest forward shut held

/-- **Every step is one of the turns.** -/
theorem turn_of_step {l : Label α} {es : List (Event α)}
    (taken : q.step l = some (q', es)) : Turn q l q' es := by
  cases l with
  | enqueue a pick => exact turn_of_enqueue taken
  | arrive k =>
      simp only [step] at taken
      split at taken
      · cases taken
      · rename_i idle
        obtain ⟨awake, uncalled⟩ := not_or.mp idle
        refine turn_of_look (.arrive k ⟨awake, uncalled⟩) ?_
        rw [List.erase_of_not_mem uncalled]
        exact Option.some.inj taken
  | resume k =>
      simp only [step] at taken
      split at taken
      · rename_i called
        exact turn_of_look (.resume k called) (Option.some.inj taken)
      · cases taken
  | stir k =>
      simp only [step] at taken
      split at taken
      · rename_i sleeps
        cases taken
        exact .stirred k sleeps
      · cases taken
  | close =>
      cases shut : q.closed with
      | true =>
          simp only [step, close_of_closed shut] at taken
          cases taken
          exact .closedBefore shut
      | false =>
          simp only [step, close_of_open shut] at taken
          cases taken
          exact .closed shut
  | drain =>
      cases taken
      exact .drained
  | measure =>
      cases taken
      exact .measured

/-! ## Closed queues -/

theorem step_arrive_of_closed {k : Nat} (idle : k ∉ q.asleep ∧ k ∉ q.woken)
    (shut : q.closed = true) : q.step (.arrive k) = some (q, [.dismissed k]) := by
  simp only [step, if_neg (not_or.mpr idle), look_of_closed k shut]

theorem step_resume_of_closed {k : Nat} (called : k ∈ q.woken) (shut : q.closed = true) :
    q.step (.resume k) = some ({ q with woken := q.woken.erase k }, [.dismissed k]) := by
  simp only [step, if_pos called]
  rw [look_of_closed k (by exact shut)]

/-- Only closing changes whether a queue is closed. -/
theorem Turn.closed_eq {l : Label α} {es : List (Event α)} (turn : Turn q l q' es)
    (other : l ≠ .close) : q'.closed = q.closed := by
  cases turn with
  | closed => exact absurd rfl other
  | _ => rfl

/-- A closed queue that is empty stays empty. -/
theorem Turn.tasks_eq_nil {l : Label α} {es : List (Event α)} (turn : Turn q l q' es)
    (shut : q.closed = true) (nothing : q.tasks = []) : q'.tasks = [] := by
  cases turn with
  | alone _ _ opened | waking _ _ _ opened | handed _ _ _ opened =>
      exact absurd (shut.symm.trans opened) (by simp)
  | drained => rfl
  | _ => exact nothing

end LineService.Queue
