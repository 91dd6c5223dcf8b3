import LineService.Proofs.Crew.Standing
import LineService.Proofs.Queue.Order
import Mathlib.Data.List.Nodup

/-!
# What becomes of the tasks of a crew

A task that is offered is accepted or refused.  Of the tasks that have been accepted, the
first ones have been handed to workers, those after them have been released by the
shutdown, and the rest are waiting (`History.accepted_eq`): the queue hands out what it
takes in order, and nothing is released before the queue is closed and nothing handed out
after.

A worker finishes what it is handed, in that order, and has at most one task in hand
(`History.handedTo_eq`).  So each task that was handed out has been finished once or is in
the hands of one worker (`History.perm_handedOut`).
-/

set_option autoImplicit false

namespace LineService.Crew

variable {α : Type} {c d : Crew α} {n : Nat}

/-! ## Views of what has happened -/

/-- The tasks that were accepted, in the order in which they were. -/
def accepted (es : List (Event α)) : List α := Queue.accepted (atQueueEvents es)

/-- The tasks that were handed back to whoever offered them. -/
def refused (es : List (Event α)) : List α := Queue.refused (atQueueEvents es)

/-- The tasks that were handed to workers, each with its worker. -/
def handed (es : List (Event α)) : List (Nat × α) := Queue.handed (atQueueEvents es)

/-- The tasks that were handed to workers, in the order in which they were. -/
def handedOut (es : List (Event α)) : List α := (handed es).map Prod.snd

/-- The tasks that were released without having been handed to a worker. -/
def released (es : List (Event α)) : List α := Queue.drained (atQueueEvents es)

def Event.finished? : Event α → Option (Nat × α)
  | .finished k task _ => some (k, task)
  | _ => none

/-- The tasks that were run to their end, each with its worker. -/
def finished (es : List (Event α)) : List (Nat × α) := es.filterMap Event.finished?

/-- The tasks that were run to their end, in the order in which they were. -/
def carriedOut (es : List (Event α)) : List α := (finished es).map Prod.snd

/-- The share of worker `k`. -/
def shareOf (k : Nat) (shares : List (Nat × α)) : List α :=
  (shares.filter fun share => share.1 == k).map Prod.snd

/-- The tasks that were handed to worker `k`, in the order in which they were. -/
def handedTo (k : Nat) (es : List (Event α)) : List α := shareOf k (handed es)

/-- The tasks that worker `k` has run to their end, in the order in which it has. -/
def finishedBy (k : Nat) (es : List (Event α)) : List α := shareOf k (finished es)

/-- The task that worker `k` has in hand, if it has one. -/
def inHandOf (c : Crew α) (k : Nat) : List α := (c.workers[k]?.bind Worker.task?).toList

/-- The tasks that workers have in hand. -/
def inHand (c : Crew α) : List α := c.workers.filterMap Worker.task?

section Append

variable (es fs : List (Event α))

@[simp] theorem accepted_append : accepted (es ++ fs) = accepted es ++ accepted fs := by
  simp [accepted]

@[simp] theorem refused_append : refused (es ++ fs) = refused es ++ refused fs := by
  simp [refused]

@[simp] theorem handed_append : handed (es ++ fs) = handed es ++ handed fs := by
  simp [handed]

@[simp] theorem released_append : released (es ++ fs) = released es ++ released fs := by
  simp [released]

@[simp] theorem finished_append : finished (es ++ fs) = finished es ++ finished fs :=
  List.filterMap_append

@[simp] theorem handedOut_append : handedOut (es ++ fs) = handedOut es ++ handedOut fs := by
  simp [handedOut]

@[simp] theorem carriedOut_append :
    carriedOut (es ++ fs) = carriedOut es ++ carriedOut fs := by
  simp [carriedOut]

@[simp] theorem shareOf_append (k : Nat) (first second : List (Nat × α)) :
    shareOf k (first ++ second) = shareOf k first ++ shareOf k second := by
  simp [shareOf]

theorem shareOf_singleton (k j : Nat) (task : α) :
    shareOf k [(j, task)] = if k = j then [task] else [] := by
  by_cases same : k = j
  · simp [shareOf, same]
  · simp [shareOf, same, Ne.symm same]

@[simp] theorem handedTo_append (k : Nat) :
    handedTo k (es ++ fs) = handedTo k es ++ handedTo k fs := by
  simp [handedTo]

@[simp] theorem finishedBy_append (k : Nat) :
    finishedBy k (es ++ fs) = finishedBy k es ++ finishedBy k fs := by
  simp [finishedBy]

end Append

theorem handedTo_handed (k j : Nat) (task : α) :
    handedTo k [.queue (.handed j task)] = if k = j then [task] else [] :=
  shareOf_singleton k j task

theorem finishedBy_finished (k j : Nat) (task : α) (outcome : Outcome) :
    finishedBy k [.finished j task outcome] = if k = j then [task] else [] :=
  shareOf_singleton k j task

/-! ## In order -/

/-- Only the work of a shutdown releases tasks. -/
theorem released_performed (es : List (Event α)) : released (performed es) = released es := by
  induction es with
  | nil => rfl
  | cons e es ih =>
      have here : released (performed [e]) = released [e] := by
        cases e with
        | queue e => cases e <;> rfl
        | _ => rfl
      rw [← List.singleton_append, performed_append, released_append, released_append, here, ih]

/-- Nothing is released while the queue is open. -/
theorem History.released_eq_nil {es : List (Event α)} (history : History n c es)
    (opened : c.queue.closed = false) : released es = [] := by
  rw [← released_performed]
  rcases history.standing.of_open opened with ⟨nothing, -⟩ | ⟨called, -⟩
  · rw [nothing]
    rfl
  · rw [called]
    rfl

/-- A step hands out a task of an open queue, or hands out nothing. -/
theorem removed_of_turn {l : Label α} {fs : List (Event α)} (turn : Turn c l d fs) :
    (∃ k a, fs = [.queue (.handed k a)] ∧ c.queue.closed = false) ∨
      (handedOut fs = [] ∧ Queue.removed (atQueueEvents fs) = released fs) := by
  cases turn with
  | handed a q comes looked =>
      cases Queue.turn_of_step looked with
      | handed _ _ _ opened => exact .inl ⟨_, a, rfl, opened⟩
  | _ => exact .inr ⟨rfl, rfl⟩

/-- The queue of a crew hands out first and releases afterwards. -/
theorem History.removed_eq {es : List (Event α)} (history : History n c es) :
    Queue.removed (atQueueEvents es) = handedOut es ++ released es := by
  induction history using History.induct with
  | start => rfl
  | next before turn _ ih =>
      rw [atQueueEvents_append, Queue.removed_append, ih, handedOut_append, released_append]
      -- What is handed out comes from an open queue, and so before anything is released.
      rcases removed_of_turn turn with ⟨k, a, rfl, opened⟩ | ⟨nothing, same⟩
      · rw [before.released_eq_nil opened, List.append_nil, List.append_assoc]
        rfl
      · rw [nothing, same, List.append_nil, List.append_assoc]

/-- **In order.**  The tasks accepted so far are those handed to workers, then those that
were released, then those that wait. -/
theorem History.accepted_eq {es : List (Event α)} (history : History n c es) :
    accepted es = handedOut es ++ released es ++ c.queue.tasks := by
  rw [← history.removed_eq]
  exact Queue.accepted_eq_removed_append_tasks history.queue

/-! ## Each by one worker -/

theorem inHandOf_eq {j : Nat} {v : Worker α} (here : c.workers[j]? = some v) :
    inHandOf c j = v.task?.toList := by
  simp [inHandOf, here]

theorem inHandOf_set {j : Nat} {v w : Worker α} {q : Queue α} (here : c.workers[j]? = some v)
    (k : Nat) : inHandOf { c with queue := q, workers := c.workers.set j w } k =
      if k = j then w.task?.toList else inHandOf c k := by
  have less : j < c.workers.length := (List.getElem?_eq_some_iff.mp here).1
  by_cases same : k = j
  · subst same
    simp [inHandOf, less]
  · simp [inHandOf, same, List.getElem?_set_ne (Ne.symm same)]

/-- A worker that had no task in hand and still has none changes nothing. -/
theorem inHandOf_set_idle {j : Nat} {v w : Worker α} {q : Queue α}
    (here : c.workers[j]? = some v) (idle : v.task? = none) (still : w.task? = none) (k : Nat) :
    inHandOf { c with queue := q, workers := c.workers.set j w } k = inHandOf c k := by
  rw [inHandOf_set here]
  split
  · rename_i same
    rw [same, inHandOf_eq here, idle, still]
  · rfl

/-- What a step hands to worker `k` it finishes or leaves in its hands. -/
theorem handedTo_of_turn {l : Label α} {fs : List (Event α)} (turn : Turn c l d fs) (k : Nat) :
    inHandOf c k ++ handedTo k fs = finishedBy k fs ++ inHandOf d k := by
  cases turn with
  | spawned fresh room =>
      change inHandOf c k ++ [] = inHandOf { c with workers := c.workers ++ [.asking] } k
      rcases Nat.lt_or_ge k c.workers.length with less | more
      · simp [inHandOf, List.getElem?_append_left less]
      · cases extra : k - c.workers.length <;>
          simp [inHandOf, List.getElem?_append_right more, List.getElem?_eq_none more, extra,
            Worker.task?]
  | slept q comes looked =>
      obtain ⟨v, here, -, idle⟩ := comes.worker
      exact (List.append_nil _).trans (inHandOf_set_idle here idle rfl k).symm
  | @handed l j m a q comes looked =>
      obtain ⟨v, here, -, idle⟩ := comes.worker
      rw [handedTo_handed, inHandOf_set here]
      by_cases same : k = j
      · rw [if_pos same, if_pos same, same, inHandOf_eq here, idle]
        rfl
      · rw [if_neg same, if_neg same, List.append_nil]
        rfl
  | dismissed q comes looked =>
      obtain ⟨v, here, -, idle⟩ := comes.worker
      exact (List.append_nil _).trans (inHandOf_set_idle here idle rfl k).symm
  | stirred j q waiting woke =>
      exact (List.append_nil _).trans (inHandOf_set_idle waiting rfl rfl k).symm
  | finished j task outcome busy =>
      rw [finishedBy_finished, inHandOf_set (q := c.queue) busy]
      by_cases same : k = j
      · rw [if_pos same, if_pos same, same, inHandOf_eq busy]
        rfl
      · rw [if_neg same, if_neg same, List.nil_append]
        exact List.append_nil _
  | _ => exact List.append_nil _

/-- **Each by one worker.**  A worker has finished, in order, what it was handed but the
task that it has in hand. -/
theorem History.handedTo_eq {es : List (Event α)} (history : History n c es) (k : Nat) :
    handedTo k es = finishedBy k es ++ inHandOf c k := by
  induction history using History.induct with
  | start => rfl
  | @next c d es fs l _ turn _ ih =>
      calc handedTo k (es ++ fs) = finishedBy k es ++ (inHandOf c k ++ handedTo k fs) := by
            rw [handedTo_append, ih, List.append_assoc]
        _ = finishedBy k (es ++ fs) ++ inHandOf d k := by
            rw [handedTo_of_turn turn k, finishedBy_append, List.append_assoc]

/-! ## Each once -/

/-- Changing one entry of a list changes what is read off it by what is read off that
entry. -/
theorem perm_filterMap_set {β γ : Type} (f : β → Option γ) {l : List β} {k : Nat} {v w : β}
    (here : l[k]? = some v) :
    ((f w).toList ++ l.filterMap f).Perm ((f v).toList ++ (l.set k w).filterMap f) := by
  have cons : ∀ x (xs : List β), (x :: xs).filterMap f = (f x).toList ++ xs.filterMap f := by
    intro x xs
    cases read : f x <;> simp [read]
  induction l generalizing k with
  | nil => simp at here
  | cons x xs ih =>
      cases k with
      | zero =>
          cases Option.some.inj here
          rw [List.set_cons_zero, cons, cons]
          exact List.perm_append_comm_assoc _ _ _
      | succ k =>
          rw [List.set_cons_succ, cons, cons]
          have rest := (ih here).append_left (f x).toList
          exact (List.perm_append_comm_assoc _ _ _).trans
            (rest.trans (List.perm_append_comm_assoc _ _ _))

theorem perm_inHand_set {j : Nat} {v : Worker α} (w : Worker α) (q : Queue α)
    (here : c.workers[j]? = some v) :
    (w.task?.toList ++ inHand c).Perm
      (v.task?.toList ++ inHand { c with queue := q, workers := c.workers.set j w }) :=
  perm_filterMap_set Worker.task? here

theorem perm_inHand_set_idle {j : Nat} {v w : Worker α} {q : Queue α}
    (here : c.workers[j]? = some v) (idle : v.task? = none) (still : w.task? = none) :
    (inHand c).Perm (inHand { c with queue := q, workers := c.workers.set j w }) := by
  simpa [idle, still] using perm_inHand_set w q here

/-- What a step hands out it finishes or leaves in somebody's hands. -/
theorem handedOut_of_turn {l : Label α} {fs : List (Event α)} (turn : Turn c l d fs) :
    (inHand c ++ handedOut fs).Perm (carriedOut fs ++ inHand d) := by
  cases turn with
  | spawned fresh room =>
      have same : (c.workers ++ [Worker.asking]).filterMap Worker.task? = inHand c ++ [] :=
        List.filterMap_append
      exact .of_eq same.symm
  | slept q comes looked =>
      obtain ⟨v, here, -, idle⟩ := comes.worker
      exact (List.Perm.of_eq (List.append_nil _)).trans (perm_inHand_set_idle here idle rfl)
  | handed a q comes looked =>
      obtain ⟨v, here, -, idle⟩ := comes.worker
      have moved := perm_inHand_set (.busy a) q here
      rw [idle] at moved
      exact List.perm_append_comm.trans moved
  | dismissed q comes looked =>
      obtain ⟨v, here, -, idle⟩ := comes.worker
      exact (List.Perm.of_eq (List.append_nil _)).trans (perm_inHand_set_idle here idle rfl)
  | stirred j q waiting woke =>
      exact (List.Perm.of_eq (List.append_nil _)).trans (perm_inHand_set_idle waiting rfl rfl)
  | finished j task outcome busy =>
      exact (List.Perm.of_eq (List.append_nil _)).trans (perm_inHand_set .asking c.queue busy)
  | _ => exact .of_eq (List.append_nil _)

/-- **Each once.**  The tasks that were handed out are those that were run to their end and
those that workers have in hand. -/
theorem History.perm_handedOut {es : List (Event α)} (history : History n c es) :
    (handedOut es).Perm (carriedOut es ++ inHand c) := by
  induction history using History.induct with
  | start => exact .refl []
  | @next c d es fs l _ turn _ ih =>
      rw [handedOut_append, carriedOut_append, List.append_assoc]
      have kept := ih.append_right (handedOut fs)
      rw [List.append_assoc] at kept
      exact kept.trans ((handedOut_of_turn turn).append_left (carriedOut es))

/-! ## By whom -/

theorem mem_shareOf {k : Nat} {a : α} {shares : List (Nat × α)} :
    a ∈ shareOf k shares ↔ (k, a) ∈ shares := by
  simp [shareOf]

/-- Tasks are handed to workers of the crew only. -/
theorem History.lt_of_mem_handed {es : List (Event α)} (history : History n c es) :
    ∀ share ∈ handed es, share.1 < n := by
  induction history using History.induct with
  | start =>
      intro share nothing
      exact absurd nothing (by simp [handed, Queue.handed, atQueueEvents])
  | @next c d es fs l before turn _ ih =>
      intro share member
      rw [handed_append, List.mem_append] at member
      rcases member with old | new
      · exact ih share old
      · cases turn with
        | handed a q comes looked =>
            obtain ⟨v, here, -⟩ := comes.worker
            have less := (List.getElem?_eq_some_iff.mp here).1
            cases List.mem_singleton.mp new
            exact Nat.lt_of_lt_of_le less before.length_le.2
        | _ => cases new

/-- What a worker has finished it was handed. -/
theorem History.finished_subset_handed {es : List (Event α)} (history : History n c es) :
    finished es ⊆ handed es := by
  rintro ⟨k, a⟩ member
  have share : a ∈ handedTo k es := by
    rw [history.handedTo_eq k]
    exact List.mem_append_left _ (mem_shareOf.mpr member)
  exact mem_shareOf.mp share

/-- Where there is only one worker, its share is everything. -/
theorem shareOf_zero {shares : List (Nat × α)} (alone : ∀ share ∈ shares, share.1 < 1) :
    shareOf 0 shares = shares.map Prod.snd := by
  have all : shares.filter (fun share => share.1 == 0) = shares :=
    List.filter_eq_self.mpr fun share member => by simpa using alone share member
  rw [shareOf, all]

/-- A single worker finishes tasks in the order in which they were accepted. -/
theorem History.carriedOut_prefix {es : List (Event α)} (history : History 1 c es) :
    carriedOut es <+: accepted es := by
  have handedAll : handedTo 0 es = handedOut es := shareOf_zero history.lt_of_mem_handed
  have finishedAll : finishedBy 0 es = carriedOut es :=
    shareOf_zero fun share member =>
      history.lt_of_mem_handed share (history.finished_subset_handed member)
  rw [history.accepted_eq, ← handedAll, history.handedTo_eq 0, finishedAll]
  simp only [List.append_assoc]
  exact List.prefix_append _ _

/-! ## Tasks that can be told apart -/

/-- Every task that was offered has one fate. -/
theorem History.perm_offered {es : List (Event α)} (history : History n c es) :
    (accepted es ++ refused es).Perm
      (carriedOut es ++ inHand c ++ released es ++ c.queue.tasks ++ refused es) := by
  rw [history.accepted_eq]
  exact ((history.perm_handedOut.append_right _).append_right _).append_right _

/-- No two workers are handed the same task. -/
theorem History.handedTo_unique {es : List (Event α)} (history : History n c es)
    (distinct : (accepted es).Nodup) {a : α} {j k : Nat} (first : a ∈ handedTo j es)
    (second : a ∈ handedTo k es) : j = k := by
  -- What was handed out was accepted, so no task occurs twice in it.
  rw [history.accepted_eq, List.append_assoc] at distinct
  have apart : ((handed es).map Prod.snd).Nodup := (List.nodup_append.mp distinct).1
  have same := List.inj_on_of_nodup_map apart (mem_shareOf.mp first) (mem_shareOf.mp second) rfl
  exact congrArg Prod.fst same

/-- A task that is offered to an open queue is accepted, whatever the crew's life, and one
that is offered to a closed queue is handed back. -/
theorem submit_cases {task : α} {pick : Nat} {fs : List (Event α)}
    (taken : c.step (.submit task pick) = some (d, fs)) :
    (c.queue.closed = false ∧ fs = [.queue (.accepted task)] ∧
        d.queue.tasks = c.queue.tasks ++ [task]) ∨
      (c.queue.closed = true ∧ fs = [.queue (.refused task)] ∧ d = c) := by
  cases turn_of_step taken with
  | accepted _ _ q ready opened queued =>
      refine .inl ⟨opened, rfl, ?_⟩
      simpa [Queue.accepted, Queue.removed, Queue.Event.accepted?, Queue.Event.removedTasks]
        using (Queue.turn_of_step queued).balance.symm
  | refused _ _ ready shut => exact .inr ⟨shut, rfl, rfl⟩
  | slept _ comes | handed _ _ comes | dismissed _ comes => cases comes

/-- **Every accepted task is accounted for, once and in order.**  In any crew, whatever its
workers and those who submit tasks or shut it down do in whatever order:

* the tasks accepted are those handed to workers, then those released by the shutdown, then
  those that wait, each in its order;
* a worker has finished, in order, what it was handed but the one task it has in hand, and
  no task is finished or in hand that was not handed out;
* where the tasks offered can be told apart, each that was handed out was handed to one
  worker, and each has one fate: it was finished once, or is in hand, or was released, or
  waits, or was refused;
* a task that is offered is accepted at the end of the queue if that is open, even when the
  crew is already shutting down, and otherwise handed back with nothing changed;
* a single worker finishes tasks in the order in which they were accepted. -/
theorem tasks_accounted_for {es : List (Event α)} (history : History n c es) :
    accepted es = handedOut es ++ released es ++ c.queue.tasks ∧
      (∀ k, handedTo k es = finishedBy k es ++ inHandOf c k) ∧
      (handedOut es).Perm (carriedOut es ++ inHand c) ∧
      ((accepted es ++ refused es).Nodup →
        (∀ a ∈ handedOut es, ∃ k, a ∈ handedTo k es ∧ ∀ j, a ∈ handedTo j es → j = k) ∧
          (carriedOut es ++ inHand c ++ released es ++ c.queue.tasks ++ refused es).Nodup) ∧
      (∀ task pick d fs, c.step (.submit task pick) = some (d, fs) →
        (c.queue.closed = false ∧ fs = [.queue (.accepted task)] ∧
            d.queue.tasks = c.queue.tasks ++ [task]) ∨
          (c.queue.closed = true ∧ fs = [.queue (.refused task)] ∧ d = c)) ∧
      (n = 1 → carriedOut es <+: accepted es) := by
  refine ⟨history.accepted_eq, history.handedTo_eq, history.perm_handedOut, ?_, ?_, ?_⟩
  · intro distinct
    refine ⟨fun a member => ?_, history.perm_offered.nodup_iff.mp distinct⟩
    obtain ⟨⟨k, b⟩, share, rfl⟩ := List.mem_map.mp member
    have here : b ∈ handedTo k es := mem_shareOf.mpr share
    exact ⟨k, here, fun j other =>
      history.handedTo_unique (List.nodup_append.mp distinct).1 other here⟩
  · exact fun task pick d fs taken => submit_cases taken
  · rintro rfl
    exact history.carriedOut_prefix

/-- A task that is offered after a shutdown has begun and before the queue is closed is
accepted, and released like the one before it; the next one is refused. -/
theorem tasks_accounted_for_late_submit :
    ∃ (c : Crew Nat) (es : List (Event Nat)), History 1 c es ∧ c.life = .terminated ∧
      accepted es = [5, 6, 7] ∧ refused es = [8] ∧
      [5, 6, 7] = handedOut es ++ released es ++ c.queue.tasks ∧
      handedTo 0 es = finishedBy 0 es ++ inHandOf c 0 ∧
      (carriedOut es ++ inHand c ++ released es ++ c.queue.tasks ++ refused es).Nodup ∧
      carriedOut es <+: [5, 6, 7] := by
  have history : History 1
      (⟨1, .terminated, true, ⟨[], true, [], []⟩, [.exited], none⟩ : Crew Nat)
      [.spawned 0, .handedOver 1, .queue (.accepted 5), .queue (.handed 0 5),
        .queue (.accepted 6), .signalled, .queue (.accepted 7), .queue (.closed true),
        .queue (.refused 8), .finished 0 5 .returned, .queue (.dismissed 0), .joined 0,
        .queue (.drained [6, 7]), .stopped, .returned (.caller 0)] :=
    ⟨_, rfl, Machine.reaches_of_run
      [.spawn (.ok ()), .handOver, .submit 5 0, .ask 0, .submit 6 0, .shutdown 0, .submit 7 0,
        .advance, .submit 8 0, .finish 0 .returned, .ask 0, .advance, .advance, .advance,
        .advance] rfl⟩
  obtain ⟨inOrder, byOne, -, once, -, alone⟩ := tasks_accounted_for history
  exact ⟨_, _, history, rfl, rfl, rfl, inOrder, byOne 0, (once (by decide)).2, alone rfl⟩

end LineService.Crew
