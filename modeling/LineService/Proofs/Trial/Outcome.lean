import LineService.Proofs.Trial.Crowd
import Mathlib.Algebra.Order.BigOperators.Group.Finset

/-!
# The outcome of a load test

The total of a crowd is the number of payloads that did not come back to the members that have gone
(`History.total`), so in the end it is that of all of them, whoever went first
(`History.total_of_ended`), and the service passes exactly if each of them came back
(`History.verdict_iff`).

A load test takes at most `stepBound` steps (`History.length_le`).  As long as it has no verdict it
waits for somebody's turn or for the service (`History.waits`), so it comes to a verdict whatever
the service does, unless the service lets somebody wait for ever.
-/

set_option autoImplicit false

namespace LineService.Trial.Crowd

open Client (Reply)

variable {authority : String} {noise : Nat → Nat → UInt64} {c c' : Crowd} {l : Label}
  {es : List Event} {k : Nat} {f : Finding}

/-! ## The total -/

theorem count_ofNat (n : Nat) (es : List Event) :
    count (UInt64.ofNat n) es = UInt64.ofNat (n + (es.map Event.added).sum) := by
  induction es generalizing n with
  | nil => rfl
  | cons e es ih =>
      have next := ih (n + e.added)
      rw [UInt64.ofNat_add] at next
      rw [count, List.foldl_cons, ← count, next, List.map_cons, List.sum_cons, Nat.add_assoc]

theorem Turn.failures (turn : Turn authority noise c l c' es) :
    c'.failures = count c.failures es := by
  cases turn with
  | moved | joined => rfl
  | started | givenUp | gathered | opened | reported => exact (UInt64.add_zero _).symm

/-- The total is what all events together have added. -/
theorem History.failures_eq (history : History authority noise c es) :
    c.failures = UInt64.ofNat (es.map Event.added).sum := by
  induction history with
  | refl => rfl
  | tail _ taken ih =>
      rw [(turn_of_step taken).failures, ih, count_ofNat, List.map_append, List.sum_append]

/-- How many of the payloads of member `k` did not come back. -/
def missed (noise : Nat → Nat → UInt64) (es : List Event) (k : Nat) : Nat :=
  unechoed (payloads noise (k + 1)) (Member.replies (ofMember k es))

theorem missed_le (noise : Nat → Nat → UInt64) (es : List Event) (k : Nat) :
    missed noise es k ≤ requestsPerClient := by
  simpa [missed] using unechoed_le (payloads noise (k + 1)) (Member.replies (ofMember k es))

/-- A finding counts what the member has missed. -/
theorem History.failed_eq (history : History authority noise c es)
    (found : Member.Found f (c.member k)) : f.failed = some (missed noise es k) :=
  (history.standing k).failed_eq found

theorem found_of_gone (gone : c.members[k]? = some (.gone f)) : Member.Found f (c.member k) :=
  member_eq gone ▸ .gone

/-- The host never sees a member that was brought down. -/
theorem History.failed_of_joined (history : History authority noise c es) :
    ∀ k f, Event.joined k f ∈ es → f.failed ≠ none := by
  induction history with
  | refl => nofun
  | @tail s t es fs l earlier taken ih =>
      intro k f there
      rcases List.mem_append.mp there with old | new
      · exact ih k f old
      · cases turn_of_step taken with
        | joined joining gone =>
            cases List.mem_singleton.mp new
            rw [History.failed_eq earlier (found_of_gone gone)]
            nofun
        | moved | started | givenUp | gathered | opened | reported =>
            cases List.mem_singleton.mp new

/-- What the members that have gone have missed is no more than all requests. -/
theorem sum_missed_le (c : Crowd) (noise : Nat → Nat → UInt64) (es : List Event) :
    (∑ k ∈ Finset.range clientCount, if (c.member k).isGone then missed noise es k else 0) ≤
      requestCount := by
  have each (k : Nat) :
      (if (c.member k).isGone then missed noise es k else 0) ≤ requestsPerClient := by
    split
    · exact missed_le noise es k
    · exact Nat.zero_le _
  simpa [requestCount] using Finset.sum_le_card_nsmul (Finset.range clientCount) _
    requestsPerClient fun k _ => each k

/-- **The total is what the members that have gone have missed**, whoever went first. -/
theorem History.total (history : History authority noise c es) :
    c.failures.toNat = ∑ k ∈ Finset.range clientCount,
      if (c.member k).isGone then missed noise es k else 0 := by
  have host : ((ofHost es).map Event.added).sum = 0 := by
    refine List.sum_eq_zero fun x added => ?_
    obtain ⟨e, here, rfl⟩ := List.mem_map.mp added
    obtain ⟨there, isHosts⟩ := List.mem_filter.mp here
    cases e with
    | joined k f => exact if_neg (history.failed_of_joined k f there)
    | member => cases isHosts
    | started | notStarted | gathered | opened | reported => rfl
  have all : (es.map Event.added).sum = ∑ k ∈ Finset.range clientCount,
      if (c.member k).isGone then missed noise es k else 0 := by
    rw [sum_map_eq Event.added history.within, host, Nat.zero_add]
    exact Finset.sum_congr rfl fun k _ => (history.standing k).added
  have bounded := Nat.lt_of_le_of_lt (sum_missed_le c noise es) (show _ < UInt64.size by decide)
  rw [history.failures_eq, all, UInt64.toNat_ofNat_of_lt' bounded]

theorem History.failures_le (history : History authority noise c es) :
    c.failures.toNat ≤ requestCount :=
  history.total ▸ sum_missed_le c noise es

/-! ## The verdict -/

/-- What the report says. -/
theorem lines_summary (elapsed throughput : String) (failed : Nat) :
    (summary elapsed throughput failed).lines = [
      "Elapsed: " ++ elapsed ++ " sending 200 requests from 20 clients",
      "Average throughput " ++ throughput ++ " requests/sec",
      toString failed ++ " of 200 requests failed"] := by
  have requests : toString requestCount = "200" := by decide
  have clients : toString clientCount = "20" := by decide
  rw [summary, requests, clients]
  simp only [String.append_assoc]
  rfl

section Ended

variable {r : Report}

theorem History.gone_of_ended (history : History authority noise c es)
    (ended : c.stage = .ended r) (less : k < clientCount) :
    ∃ f, c.members[k]? = some (.gone f) :=
  history.placed.gone k (by rwa [ended])

/-- At the end all payloads that did not come back have been counted. -/
theorem History.total_of_ended (history : History authority noise c es)
    (ended : c.stage = .ended r) :
    c.failures.toNat = ∑ k ∈ Finset.range clientCount, missed noise es k := by
  rw [history.total]
  refine Finset.sum_congr rfl fun k here => if_pos ?_
  obtain ⟨f, gone⟩ := history.gone_of_ended ended (Finset.mem_range.mp here)
  rw [member_eq gone]
  rfl

/-- The report tells the total. -/
theorem History.report_eq (history : History authority noise c es) (ended : c.stage = .ended r) :
    ∃ elapsed throughput, r = summary elapsed throughput c.failures.toNat := by
  cases history with
  | refl => cases ended
  | tail earlier taken =>
      cases turn_of_step taken with
      | reported elapsed throughput =>
          cases ended
          exact ⟨elapsed, throughput, rfl⟩
      | moved here _ moved =>
          -- all members have gone, so none of them can have taken the last step
          obtain ⟨f, gone⟩ :=
            History.gone_of_ended earlier ended ((History.placed earlier).less here)
          exact absurd (Option.some.inj (here.symm.trans gone))
            (ne_gone_of_turn (Member.turn_of_step moved))
      | started starting => cases starting.symm.trans ended
      | givenUp | gathered | opened | joined => cases ended

end Ended

/-- Request `n` of member `k` got its own payload back. -/
def Echoed (noise : Nat → Nat → UInt64) (es : List Event) (k n : Nat) : Prop :=
  (Member.replies (ofMember k es))[n]? = some (.line (payload (k + 1) n (noise (k + 1) n)))

theorem missed_eq_zero_iff :
    missed noise es k = 0 ↔ ∀ n, n < requestsPerClient → Echoed noise es k n := by
  have place (n : Nat) (less : n < requestsPerClient) : (payloads noise (k + 1))[n]? =
      some (payload (k + 1) n (noise (k + 1) n)) := by
    simp [payloads, less]
  rw [missed, unechoed_eq_zero_iff]
  constructor
  · intro all n less
    exact all n _ (place n less)
  · intro all n p here
    have less := (List.getElem?_eq_some_iff.mp here).1
    rw [length_payloads] at less
    cases (place n less).symm.trans here
    exact all n less

/-- **The service passes exactly if every request got its own payload back.** -/
theorem History.verdict_iff (history : History authority noise c es) {passed : Bool}
    (known : c.verdict? = some passed) : passed = true ↔
      ∀ k, k < clientCount → ∀ n, n < requestsPerClient → Echoed noise es k n := by
  cases stage : c.stage with
  | starting | gathered | joining k => simp [verdict?, stage] at known
  | ended r =>
      obtain ⟨elapsed, throughput, rfl⟩ := history.report_eq stage
      have same : passed = (c.failures.toNat == 0) := by
        simpa [verdict?, stage, summary] using known.symm
      rw [same, beq_iff_eq, history.total_of_ended stage, Finset.sum_eq_zero_iff]
      simp only [Finset.mem_range, missed_eq_zero_iff]
  | givenUp =>
      have failed : passed = false := by
        simpa [verdict?, stage] using known.symm
      have short := history.placed.short stage
      have standing := history.standing c.members.length
      rw [member, List.getElem?_eq_none (Nat.le_refl _), Option.getD_none] at standing
      -- the member that was not started has got nothing back
      have silent : ofMember c.members.length es = [] := by
        generalize ofMember c.members.length es = fs at standing
        cases standing
        rfl
      rw [failed]
      refine ⟨fun passes => absurd passes Bool.false_ne_true, fun all => ?_⟩
      have first := all _ short 0 (by decide)
      rw [Echoed, silent] at first
      cases first

/-! ## Getting there -/

/-- A step that waits for nothing but its turn. -/
def Label.isFree : Label → Bool
  | .start (.ok ()) | .member _ .enter | .member _ .leave | .proceed | .report .. => true
  | _ => false

/-- What the test is waiting for: for somebody's turn, or for the service, which may then do what
it likes. -/
inductive Waits (authority : String) (noise : Nat → Nat → UInt64) (c : Crowd) : Prop where
  | turn (l : Label) (free : l.isFree = true) (enabled : (step authority noise c l).isSome)
  | attempt (k : Nat) (here : c.members[k]? = some .connecting)
      (enabled : ∀ attempt, (step authority noise c (.member k (.connect attempt))).isSome)
  | reply (k : Nat) (command : String) (go : Reply → Client.Dialogue Finding)
      (here : c.members[k]? = some (.asking (.ask command go)))
      (enabled : ∀ reply, (step authority noise c (.member k (.exchange reply))).isSome)

/-- **As long as there is no verdict, the test waits for a turn or for the service.** -/
theorem History.waits (history : History authority noise c es) (unknown : c.verdict? = none) :
    Waits authority noise c := by
  have placed := history.placed
  cases stage : c.stage with
  | starting =>
      rcases Nat.lt_or_eq_of_le placed.few with room | all
      · exact .turn (.start (.ok ())) rfl (by simp [step, stage, room])
      · exact .turn .proceed rfl (by simp [step, proceed, stage, all])
  | gathered =>
      by_cases come : ∀ m ∈ c.members, m.hasCome = true
      · have isOpen : c.gateOpen = true :=
          gateOpen_iff.mpr ⟨by simp [stage], placed.all stage, come⟩
        exact .turn .proceed rfl (by simp [step, proceed, stage, isOpen])
      · simp only [not_forall] at come
        obtain ⟨m, there, connecting⟩ := come
        obtain ⟨k, here⟩ := List.mem_iff_getElem?.mp there
        cases m with
        | connecting =>
            exact .attempt k here fun _ => Option.isSome_of_eq_some (step_member here rfl rfl)
        | waiting | asking | gone => exact absurd rfl connecting
  | joining k =>
      have isOpen := placed.isOpen (stage ▸ rfl)
      obtain ⟨-, all, come⟩ := gateOpen_iff.mp isOpen
      cases here : c.members[k]? with
      | none =>
          have more := List.getElem?_eq_none_iff.mp here
          have most := placed.seen
          rw [stage, Stage.seen, ← all] at most
          exact .turn (.report "" "") rfl (by simp [step, stage, Nat.le_antisymm most more])
      | some m =>
          cases m with
          | connecting => exact absurd (come _ (List.mem_of_getElem? here)) Bool.false_ne_true
          | waiting =>
              exact .turn (.member k .enter) rfl
                (Option.isSome_of_eq_some (step_member here isOpen rfl))
          | asking d =>
              cases d with
              | done =>
                  exact .turn (.member k .leave) rfl
                    (Option.isSome_of_eq_some (step_member here rfl rfl))
              | ask =>
                  exact .reply k _ _ here fun _ =>
                    Option.isSome_of_eq_some (step_member here rfl rfl)
          | gone => exact .turn .proceed rfl (by simp [step, proceed, stage, here])
  | ended | givenUp => simp [verdict?, stage] at unknown

/-- The steps that the host has taken. -/
def hostSteps (c : Crowd) : Nat :=
  match c.stage with
  | .starting => c.members.length
  | .gathered => clientCount + 1
  | .joining k => clientCount + k + 2
  | .ended _ => clientCount + clientCount + 3
  | .givenUp => c.members.length + 1

theorem History.length_ofHost (history : History authority noise c es) :
    (ofHost es).length = c.hostSteps := by
  induction history with
  | refl => rfl
  | @tail s t es fs l earlier taken ih =>
      rw [ofHost_append, List.length_append, ih]
      cases turn_of_step taken with
      | started starting | givenUp f starting =>
          change s.hostSteps + 1 = _
          simp [hostSteps, starting]
      | moved =>
          change s.hostSteps = _
          simp [hostSteps]
      | gathered starting all =>
          change s.hostSteps + 1 = _
          simp [hostSteps, starting, all]
      | opened gathered =>
          change s.hostSteps + 1 = _
          simp [hostSteps, gathered]
      | joined joining =>
          change s.hostSteps + 1 = _
          simp only [hostSteps, joining]
          omega
      | reported elapsed throughput joining all =>
          obtain ⟨-, full, -⟩ := gateOpen_iff.mp ((History.placed earlier).isOpen (joining ▸ rfl))
          change s.hostSteps + 1 = _
          simp only [hostSteps, joining, all, full]

/-- More steps than this no load test takes. -/
def stepBound : Nat := clientCount + clientCount + 3 + clientCount * (requestsPerClient + 3)

/-- **Every load test comes to an end.** -/
theorem History.length_le (history : History authority noise c es) : es.length ≤ stepBound := by
  have placed := history.placed
  have host : (ofHost es).length ≤ clientCount + clientCount + 3 := by
    have few := placed.few
    have seen := placed.seen
    rw [history.length_ofHost, hostSteps]
    cases stage : c.stage with
    | joining k =>
        rw [stage, Stage.seen] at seen
        simp only
        omega
    | starting | gathered | ended | givenUp =>
        simp only
        omega
  have members : ∑ k ∈ Finset.range clientCount, (ofMember k es).length ≤
      clientCount * (requestsPerClient + 3) := by
    simpa using Finset.sum_le_card_nsmul (Finset.range clientCount) _ (requestsPerClient + 3)
      fun k _ => (history.standing k).length_le
  have one {α : Type} (xs : List α) : (xs.map fun _ => 1).sum = xs.length := by
    simp
  have whole := sum_map_eq (fun _ => 1) history.within
  simp only [one] at whole
  rw [whole, stepBound]
  exact Nat.add_le_add host members

/-- Every step comes to one event. -/
theorem length_of_run {ls : List Label}
    (ran : Machine.run (step authority noise) c ls = some (c', es)) : es.length = ls.length := by
  induction ls generalizing c es with
  | nil =>
      cases ran
      rfl
  | cons l ls ih =>
      obtain ⟨d, fs, gs, taken, rest, rfl⟩ := Machine.run_cons_eq_some.mp ran
      obtain ⟨e, rfl⟩ := (turn_of_step taken).single
      rw [List.length_append, ih rest, List.length_singleton, List.length_cons, Nat.add_comm]

end LineService.Trial.Crowd
