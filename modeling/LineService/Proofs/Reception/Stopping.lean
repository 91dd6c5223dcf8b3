import LineService.Proofs.Machine.Latch
import LineService.Proofs.Reception.Turns

/-!
# A request to stop reaches the reception

Whoever is the first to request stopping sets a flag that all handles share, and then makes a
connection of its own.  The reception may be anywhere at that moment, other clients may connect
before or after, and accepting may fail.

From the moment on at which the flag is set the reception does not begin to accept again.  So a
reception that is still accepting when the connection has been made has taken nothing off its
backlog since, and finds at least this connection there (`backlog_ne_nil`).  Altogether it
takes at most two more steps of its own, whatever happens around it (`stepsLeft_of_run`).  Only the
first request is reported and makes a connection, and only a requested reception leaves.
-/

set_option autoImplicit false

namespace LineService.Reception

variable {χ : Type} {r s : Reception χ} {l : Label χ} {es fs : List (Event χ)} {firstId : UInt32}

/-! ## Requests and attempts to wake the reception -/

/-- What handle `_handle` says when it is asked whether stopping has been requested: all handles
share one flag. -/
def isRequested (r : Reception χ) (_handle : Nat) : Bool := r.requested

/-- Whether a request was the first. -/
def Event.request? : Event χ → Option Bool
  | .requested _ => some true
  | .repeated _ => some false
  | _ => none

/-- An attempt to wake the reception, and whether it made a connection. -/
def Event.attempt? : Event χ → Option Bool
  | .woke _ => some true
  | .unwoken _ => some false
  | _ => none

/-- The requests through all handles, in their order, each with whether it was the first. -/
def requests (es : List (Event χ)) : List Bool := es.filterMap Event.request?

/-- The attempts to wake the reception, each with whether it made a connection. -/
def attempts (es : List (Event χ)) : List Bool := es.filterMap Event.attempt?

@[simp] theorem attempts_append (es fs : List (Event χ)) :
    attempts (es ++ fs) = attempts es ++ attempts fs := List.filterMap_append

/-- Only the first request changes anything. -/
theorem requests_of_turn (turn : Turn r l s fs) :
    (requests fs = [] ∧ s.requested = r.requested) ∨
      (requests fs = [!r.requested] ∧ s.requested = true) := by
  cases turn with
  | requested _ first => exact .inr ⟨by simp [requests, Event.request?, first], rfl⟩
  | repeated _ again => exact .inr ⟨by simp [requests, Event.request?, again], again⟩
  | _ => exact .inl ⟨rfl, rfl⟩

theorem latch_requested :
    Machine.Latch (step (χ := χ)) Reception.requested Event.request? where
  turn taken := requests_of_turn (turn_of_step taken)

/-- **The first request makes one attempt to wake the reception**, and no other request does. -/
theorem attempts_length (reached : Machine.Reaches step (new firstId) r es) :
    (attempts es).length + r.waking.toNat = r.requested.toNat := by
  induction reached with
  | refl => rfl
  | @tail r s es fs l _ taken ih =>
      rw [attempts_append, List.length_append]
      cases turn_of_step taken with
      | requested _ first =>
          rw [first] at ih
          obtain ⟨zero, -⟩ := Nat.add_eq_zero_iff.mp ih
          rw [zero]
          rfl
      | woke _ waking | unwoken _ waking =>
          rw [← ih, waking]
          rfl
      | _ => exact ih

/-! ## What is reported of a request -/

/-- The report that stopping has been requested. -/
def requestReport : Journal.Record := stopRecord .info "Shutdown requested"

/-- Of all that happens only the first request is reported so. -/
theorem record?_eq_requestReport (peer : χ → String) (listener : Net.Address) (e : Event χ) :
    e.record? peer listener = some requestReport ↔ e.request? = some true := by
  cases e <;>
    simp [Event.record?, Event.request?, requestReport, receptionRecord, stopRecord]

/-- **Stopping is reported once**, when it is requested for the first time. -/
theorem count_requestReport (peer : χ → String) (listener : Net.Address)
    (reached : Machine.Reaches step (new firstId) r es) :
    (es.filterMap (Event.record? peer listener)).count requestReport = r.requested.toNat := by
  have same : (es.filterMap (Event.record? peer listener)).count requestReport =
      (requests es).count true := by
    rw [requests, List.count_filterMap, List.count_filterMap]
    congr 1
    funext e
    rw [Bool.eq_iff_iff, beq_iff_eq, beq_iff_eq]
    exact record?_eq_requestReport peer listener e
  rw [same]
  exact latch_requested.count_true rfl reached

/-! ## The reception does not wait in vain -/

/-- The reception waits for a connection, and none is there. -/
def Blocked (r : Reception χ) : Prop := r.phase = .accepting ∧ r.backlog = []

/-- **A reception that accepts after it has been woken finds a connection.** -/
theorem backlog_ne_nil (reached : Machine.Reaches step (new firstId) r es)
    (woken : true ∈ attempts es) (accepting : r.phase = .accepting) : r.backlog ≠ [] := by
  induction reached with
  | refl => cases accepting
  | @tail r s es fs l earlier taken ih =>
      rw [attempts_append, List.mem_append] at woken
      cases turn_of_step taken with
      | connected | woke => simp
      | requested | repeated | unwoken =>
          exact ih (woken.resolve_right (by simp [attempts, Event.attempt?])) accepting
      | opened _ unasked =>
          -- the reception was woken before, so it has been asked to stop
          have before := woken.resolve_right (by simp [attempts])
          have positive := List.length_pos_of_mem before
          have one := attempts_length earlier
          rw [unasked, Bool.toNat_false] at one
          omega
      | _ => cases accepting

/-! ## The last steps of the reception -/

/-- A step of the reception itself. -/
def Label.isOwn : Label χ → Bool
  | .look | .accept | .fail _ | .hand _ => true
  | .connect _ | .request _ | .wake _ => false

/-- The steps of its own that a reception still takes once it has been asked to stop. -/
def stepsLeft (r : Reception χ) : Nat :=
  match r.phase with
  | .starting | .accepting | .handing .. => 2
  | .checking | .judging _ => 1
  | .over => 0

theorem stepsLeft_le (r : Reception χ) : r.stepsLeft ≤ 2 := by
  unfold stepsLeft
  split <;> omega

theorem stepsLeft_eq_zero : r.stepsLeft = 0 ↔ r.phase = .over := by
  unfold stepsLeft
  split <;> simp_all

/-- What is not a step of the reception leaves it where it is, and a step of its own brings it
nearer to its end once it has been asked to stop. -/
theorem stepsLeft_of_turn (turn : Turn r l s fs) (asked : r.requested = true) :
    l.isOwn.toNat + s.stepsLeft = r.stepsLeft := by
  cases turn with
  | connected | requested | repeated | woke | unwoken => exact Nat.zero_add _
  | opened _ unasked | taken _ _ unasked | retried _ _ unasked =>
      exact absurd (asked.symm.trans unasked) (by simp)
  | started phase | stopped phase | turnedAway _ phase | gaveUp _ phase | returned _ _ phase
  | failed _ phase | handed _ _ phase | refused _ _ phase =>
      simp [stepsLeft, phase, Label.isOwn]

/-- **A reception that has been asked to stop is over after two steps of its own at the latest**,
whatever happens in between. -/
theorem stepsLeft_of_run (asked : r.requested = true) (ls : List (Label χ))
    (ran : Machine.run step r ls = some (s, fs)) :
    ls.countP Label.isOwn + s.stepsLeft = r.stepsLeft :=
  Machine.countP_of_run (fun r => r.requested = true)
    (fun taken asked => ⟨stepsLeft_of_turn (turn_of_step taken) asked,
      (over_of_turn (turn_of_step taken)).2 asked⟩) asked ls ran

/-- A reception that is not blocked goes on until it is over. -/
theorem exists_own_step (going : r.phase ≠ .over) (free : ¬ r.Blocked) :
    ∃ l, l.isOwn = true ∧ (r.step l).isSome := by
  cases phase : r.phase with
  | starting => exact ⟨.look, rfl, by simp [step, look, phase]⟩
  | checking =>
      exact ⟨.look, rfl, by cases asked : r.requested <;> simp [step, look, phase, asked]⟩
  | judging o =>
      refine ⟨.look, rfl, ?_⟩
      cases o <;> cases asked : r.requested <;> simp [step, look, phase, asked]
  | handing c id => exact ⟨.hand true, rfl, by simp [step, phase]⟩
  | «over» => exact absurd phase going
  | accepting =>
      refine ⟨.accept, rfl, ?_⟩
      cases waiting : r.backlog with
      | nil => exact absurd ⟨phase, waiting⟩ free
      | cons c rest => simp [step, phase, waiting]

/-! ## Stopping -/

/-- **A request to stop always reaches the reception.**

Let any number of requests be made through any handles, in between clients connect and accepting
fail, in any order.

* Of all requests the first and no other is told so, is reported, and attempts to wake the
  reception.
* Every handle says that stopping has been requested once it has been, through whichever handle,
  and not before.
* When the attempt has made a connection, the reception is not blocked on an empty backlog but has
  a next step, until it is over.
* Once requested, it takes at most two more steps of its own, whatever else happens, and after as
  many it is over.
* It is over only if that has been requested. -/
theorem request_reaches (peer : χ → String) (listener : Net.Address)
    (reached : Machine.Reaches step (new firstId) r es) :
    (∃ n, requests es = if r.requested then true :: List.replicate n false else []) ∧
      (es.filterMap (Event.record? peer listener)).count requestReport = (requests es).count true ∧
      (attempts es).length + r.waking.toNat = (requests es).count true ∧
      (∀ handle, r.isRequested handle = true ↔ requests es ≠ []) ∧
      (true ∈ attempts es → r.phase ≠ .over →
        ¬ r.Blocked ∧ ∃ l, l.isOwn = true ∧ (r.step l).isSome) ∧
      (r.requested = true → ∀ ls s fs, Machine.run step r ls = some (s, fs) →
        ls.countP Label.isOwn ≤ 2 ∧ (ls.countP Label.isOwn = r.stepsLeft ↔ s.phase = .over)) ∧
      (r.phase = .over → r.requested = true) := by
  have first : (requests es).count true = r.requested.toNat :=
    latch_requested.count_true rfl reached
  refine ⟨latch_requested.told_eq rfl reached, ?_, ?_, fun _ => latch_requested.set_iff rfl reached,
    fun woken going => ?_, fun asked ls s fs ran => ?_, requested_of_over reached⟩
  · rw [first, count_requestReport peer listener reached]
  · rw [first, attempts_length reached]
  · have free : ¬ r.Blocked := fun blocked =>
      backlog_ne_nil reached woken blocked.1 blocked.2
    exact ⟨free, exists_own_step going free⟩
  · have left := stepsLeft_of_run asked ls ran
    have few := r.stepsLeft_le
    refine ⟨by omega, ?_⟩
    rw [← stepsLeft_eq_zero]
    omega

/-- Stopping is requested twice while the reception accepts.  A client connects before the first
requester does; the reception accepts its connection instead of the other one, and leaves. -/
theorem request_reaches_overtaken :
    Machine.Reaches step (new (χ := Nat) 1) ⟨.accepting, 1, true, false, [7, 8]⟩
        [.started, .requested 0, .repeated 1, .woke 8] ∧
      ¬ Blocked (⟨.accepting, 1, true, false, [7, 8]⟩ : Reception Nat) ∧
      Machine.run step (⟨.accepting, 1, true, false, [7, 8]⟩ : Reception Nat)
          [.accept, .connect 9, .look] =
        some (⟨.over, 1, true, false, [8, 9]⟩,
          [.returned (.connection 7), .turnedAway 7, .stopping]) ∧
      (⟨.over, 1, true, false, [8, 9]⟩ : Reception Nat).phase = .over := by
  have reached : Machine.Reaches step (new (χ := Nat) 1) ⟨.accepting, 1, true, false, [7, 8]⟩
      [.started, .requested 0, .repeated 1, .woke 8] := Machine.reaches_of_run
    [.look, .look, .request 0, .connect 7, .request 1, .wake (.ok 8)] rfl
  obtain ⟨-, -, -, -, free, last, -⟩ :=
    request_reaches toString ⟨.v4 127 0 0 1, 0, 1⟩ reached
  exact ⟨reached, (free (by decide) nofun).1, rfl,
    (last rfl [.accept, .connect 9, .look] _ _ rfl).2.mp rfl⟩

end LineService.Reception
