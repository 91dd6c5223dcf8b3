import LineService.Proofs.Machine.Runs
import LineService.Proofs.Queue.Turns

/-!
# No wakeup is lost

A queue is attended when nobody at it can wait in vain: while it is open and somebody
sleeps, at least as many consumers have been woken as tasks are waiting, and once it is
closed nobody sleeps.  Consumers are told apart, so a consumer that sleeps has not been
woken and is counted once.

A single call wakes at most one sleeper, a woken consumer may find that another has come
before it, and a sleeper may wake for no reason.  All the same a queue stays attended
(`attended_of_reaches`): a step that adds a task adds a woken consumer if there is a
sleeper left, and a step that takes a woken consumer away takes a task away with it or
finds none.
-/

set_option autoImplicit false

namespace LineService.Queue

variable {α : Type} {q q' : Queue α}

/-- Everybody that waits at the queue, asleep or woken. -/
def waiting (q : Queue α) : List Nat := q.asleep ++ q.woken

/-- Nobody at the queue waits in vain. -/
structure Attended (q : Queue α) : Prop where
  /-- A consumer waits once, asleep or woken. -/
  distinct : q.waiting.Nodup
  enough : q.closed = false → q.asleep ≠ [] → q.tasks.length ≤ q.woken.length
  awake : q.closed = true → q.asleep = []

theorem attended_empty : Attended (empty : Queue α) where
  distinct := by simp [waiting, empty]
  enough := by simp [empty]
  awake := by simp [empty]

/-! ## Who waits -/

/-- Waking a sleeper moves it from one list to the other. -/
theorem perm_wake {asleep woken : List Nat} {k : Nat} (sleeps : k ∈ asleep) :
    (asleep.erase k ++ (woken ++ [k])).Perm (asleep ++ woken) := by
  have moved : (asleep.erase k ++ (woken ++ [k])).Perm (k :: asleep.erase k ++ woken) :=
    ((List.perm_append_singleton k woken).append_left _).trans List.perm_middle
  exact moved.trans ((List.perm_cons_erase sleeps).symm.append_right woken)

/-- A consumer that comes forward is neither asleep nor woken any more. -/
theorem Forward.nodup {l : Label α} {k : Nat} (forward : Forward q l k)
    (distinct : q.waiting.Nodup) : (k :: (q.asleep ++ q.woken.erase k)).Nodup := by
  cases forward with
  | arrive _ idle =>
      rw [List.erase_of_not_mem idle.2]
      exact List.nodup_cons.mpr ⟨by simpa using idle, distinct⟩
  | resume _ called =>
      have taken : q.waiting.Perm (k :: (q.asleep ++ q.woken.erase k)) :=
        ((List.perm_cons_erase called).append_left _).trans List.perm_middle
      exact taken.nodup_iff.mp distinct

/-- A consumer that comes forward leaves the others waiting. -/
theorem Forward.mem_waiting {l : Label α} {k : Nat} (forward : Forward q l k)
    (distinct : q.waiting.Nodup) (j : Nat) :
    j ∈ q.asleep ++ q.woken.erase k ↔ j ≠ k ∧ j ∈ q.waiting := by
  have apart := (List.nodup_cons.mp (forward.nodup distinct)).1
  by_cases same : j = k
  · subst same
    simp [apart]
  · simp [waiting, same]

/-! ## Every step keeps a queue attended -/

theorem Attended.turn (attended : Attended q) {l : Label α} {es : List (Event α)}
    (turn : Turn q l q' es) : Attended q' := by
  obtain ⟨distinct, enough, awake⟩ := attended
  cases turn with
  | alone a pick opened nobody => exact ⟨distinct, fun _ waiters => absurd nobody waiters, awake⟩
  | waking a pick k opened sleeps =>
      refine ⟨(perm_wake sleeps).nodup_iff.mpr distinct, fun _ _ => ?_, fun shut => ?_⟩
      · have before := enough opened (List.ne_nil_of_mem sleeps)
        simpa using before
      · simp [opened] at shut
  | refused => exact ⟨distinct, enough, awake⟩
  | slept forward opened nothing =>
      have apart := forward.nodup distinct
      refine ⟨?_, fun _ _ => by simp [nothing], fun shut => ?_⟩
      · simpa [waiting] using List.perm_middle.nodup_iff.mpr apart
      · simp [opened] at shut
  | @handed l k a rest forward opened first =>
      refine ⟨(forward.nodup distinct).of_cons, fun _ waiters => ?_, fun shut => ?_⟩
      · -- With the task at most one consumer goes that had been woken.
        have before := enough opened waiters
        have remaining : q.woken.length - 1 ≤ (q.woken.erase k).length := List.le_length_erase
        rw [first, List.length_cons] at before
        exact Nat.le_trans (Nat.le_sub_one_of_lt before) remaining
      · simp [opened] at shut
  | dismissed forward shut =>
      refine ⟨(forward.nodup distinct).of_cons, fun opened => ?_, awake⟩
      simp [shut] at opened
  | stirred k sleeps =>
      refine ⟨(perm_wake sleeps).nodup_iff.mpr distinct, fun opened _ => ?_, fun shut => ?_⟩
      · have before := enough opened (List.ne_nil_of_mem sleeps)
        simp only [List.length_append, List.length_singleton]
        exact Nat.le_succ_of_le before
      · exact absurd (awake shut) (List.ne_nil_of_mem sleeps)
  | closed =>
      refine ⟨?_, by simp, by simp⟩
      simpa [waiting] using List.perm_append_comm.nodup_iff.mp distinct
  | closedBefore => exact ⟨distinct, enough, awake⟩
  | drained => exact ⟨distinct, by simp, awake⟩
  | measured => exact ⟨distinct, enough, awake⟩

theorem attended_of_reaches {es : List (Event α)} (reached : Machine.Reaches step empty q es) :
    Attended q := by
  induction reached with
  | refl => exact attended_empty
  | tail _ taken ih => exact ih.turn (turn_of_step taken)

/-! ## Who waits after a step -/

section Waiting

variable {l : Label α} {k : Nat}

theorem Turn.mem_waiting_of_slept (turn : Turn q l q' [.slept k]) (j : Nat) :
    j ∈ q'.waiting ↔ j = k ∨ j ∈ q.waiting := by
  cases turn with
  | slept forward opened nothing => by_cases same : j = k <;> simp [waiting, same]

theorem Turn.mem_waiting_of_handed {a : α} (turn : Turn q l q' [.handed k a])
    (distinct : q.waiting.Nodup) (j : Nat) : j ∈ q'.waiting ↔ j ≠ k ∧ j ∈ q.waiting := by
  cases turn with
  | handed _ rest forward opened first => exact forward.mem_waiting distinct j

theorem Turn.mem_waiting_of_dismissed (turn : Turn q l q' [.dismissed k])
    (distinct : q.waiting.Nodup) (j : Nat) : j ∈ q'.waiting ↔ j ≠ k ∧ j ∈ q.waiting := by
  cases turn with
  | dismissed forward shut => exact forward.mem_waiting distinct j

theorem Turn.mem_waiting_of_accepted {a : α} (turn : Turn q l q' [.accepted a]) (j : Nat) :
    j ∈ q'.waiting ↔ j ∈ q.waiting := by
  cases turn with
  | alone => rfl
  | waking _ _ _ _ sleeps => exact (perm_wake sleeps).mem_iff

theorem Turn.mem_waiting_of_stirred (turn : Turn q l q' [.stirred k]) (j : Nat) :
    j ∈ q'.waiting ↔ j ∈ q.waiting := by
  cases turn with
  | stirred _ sleeps => exact (perm_wake sleeps).mem_iff

theorem Turn.mem_waiting_of_closed {first : Bool} (turn : Turn q l q' [.closed first]) (j : Nat) :
    j ∈ q'.waiting ↔ j ∈ q.waiting := by
  cases turn with
  | closed => simp [waiting, or_comm]
  | closedBefore => rfl

end Waiting

/-! ## Nobody waits in vain -/

/-- A woken consumer that looks at an open queue with a task takes the first one. -/
theorem step_resume_of_cons {k : Nat} {a : α} {rest : List α} (called : k ∈ q.woken)
    (opened : q.closed = false) (first : q.tasks = a :: rest) :
    q.step (.resume k) =
      some ({ q with tasks := rest, woken := q.woken.erase k }, [.handed k a]) := by
  simp only [step, if_pos called]
  rw [look_of_cons k (by exact opened) (by exact first)]

/-- **No wakeup is lost.**  Whatever producers and consumers do in whatever order, and
whichever sleeper is woken, consumers that wait are told apart; while the queue is open and
one of them sleeps, at least as many have been woken and have not looked again as tasks are
waiting; and nobody sleeps at a closed queue.  So where a task waits at an open queue with a
sleeper, somebody else is on its way, and takes it by looking now. -/
theorem no_lost_wakeup {es : List (Event α)} (reached : Machine.Reaches step empty q es) :
    (q.asleep ++ q.woken).Nodup ∧
      (q.closed = false → q.asleep ≠ [] → q.tasks.length ≤ q.woken.length) ∧
      (q.closed = true → q.asleep = []) ∧
      (q.closed = false → q.asleep ≠ [] → ∀ a rest, q.tasks = a :: rest →
        ∃ k ∈ q.woken, ∃ q', q.step (.resume k) = some (q', [.handed k a])) := by
  have attended := attended_of_reaches reached
  refine ⟨attended.distinct, attended.enough, attended.awake, ?_⟩
  intro opened waiters a rest first
  have count := attended.enough opened waiters
  have positive : 0 < q.woken.length := by
    rw [first, List.length_cons] at count
    omega
  obtain ⟨k, called⟩ := List.exists_mem_of_length_pos positive
  exact ⟨k, called, _, step_resume_of_cons called opened first⟩

/-- Three consumers sleep, two tasks wake two of them, and a newcomer takes the first task:
one sleeps on, and two are on their way to the task that is left. -/
theorem no_lost_wakeup_newcomer :
    Machine.Reaches step (empty : Queue Nat) ⟨[6], false, [2], [0, 1]⟩
        [.slept 0, .slept 1, .slept 2, .accepted 5, .accepted 6, .handed 3 5] ∧
      [6].length ≤ [0, 1].length ∧
      ∃ k ∈ [0, 1], ∃ q', step ⟨[6], false, [2], [0, 1]⟩ (.resume k) =
        some (q', [.handed k 6]) := by
  have reached : Machine.Reaches step (empty : Queue Nat) ⟨[6], false, [2], [0, 1]⟩
      [.slept 0, .slept 1, .slept 2, .accepted 5, .accepted 6, .handed 3 5] :=
    Machine.reaches_of_run
      [.arrive 0, .arrive 1, .arrive 2, .enqueue 5 0, .enqueue 6 0, .arrive 3] rfl
  obtain ⟨_, enough, _, coming⟩ := no_lost_wakeup reached
  exact ⟨reached, enough rfl (by simp), coming rfl (by simp) 6 [] rfl⟩

end LineService.Queue
