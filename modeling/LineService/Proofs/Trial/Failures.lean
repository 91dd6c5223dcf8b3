import LineService.Proofs.Trial.Sites

/-!
# Failures are counted exactly

`Exact` says what a load test has come to at any moment, whatever the service does to each of its
clients and in whatever order the clients take their steps.  The failures of a client are the
requests that did not get their own payload back.  Those that were never sent, because the
connection had been lost by then or had never been made, are among them.  The total is the sum over
the clients that have gone, and with the last of them it is that of the whole test.

`failures_counted_exactly` adds that a test comes to its end, that its outcome does not hang on who
was first, that no request can be taken for another, and that the program reports this outcome.
-/

set_option autoImplicit false

namespace LineService.Trial.Crowd

open Client (Reply)

variable {authority : String} {noise : Nat → Nat → UInt64} {c d : Crowd} {es fs : List Event}
  {r q : Report}

/-- What a load test has come to. -/
structure Exact (authority : String) (noise : Nat → Nat → UInt64) (c : Crowd) (es : List Event) :
    Prop where
  /-- Each client sends the requests for its payloads in turn, and nothing else. -/
  said : ∀ k, (Member.exchanges (ofMember k es)).map Prod.fst =
    ((payloads noise (k + 1)).take (Member.exchanges (ofMember k es)).length).map
      fun p => (Request.echo p).wire
  /-- A client that has done what it can has counted the payloads that did not come back.  Its
  counting has not brought it down. -/
  counted : ∀ k f, Member.Found f (c.member k) → f.failed = some (missed noise es k)
  /-- The total is the sum over the clients that have gone. -/
  total : c.failures.toNat = ∑ k ∈ Finset.range clientCount,
    if (c.member k).isGone then missed noise es k else 0
  bounded : c.failures.toNat ≤ requestCount
  /-- In the end the sum over all clients is reported, in these words. -/
  reported : ∀ r, c.stage = .ended r → ∃ elapsed throughput,
    r = summary elapsed throughput (∑ k ∈ Finset.range clientCount, missed noise es k) ∧
    r.lines = [
      "Elapsed: " ++ elapsed ++ " sending 200 requests from 20 clients",
      "Average throughput " ++ throughput ++ " requests/sec",
      toString (∑ k ∈ Finset.range clientCount, missed noise es k) ++ " of 200 requests failed"]
  /-- The service passes exactly if every request of every client got its own payload back. -/
  verdict : ∀ passed, c.verdict? = some passed → (passed = true ↔
    ∀ k, k < clientCount → ∀ n, n < requestsPerClient → Echoed noise es k n)
  /-- Without a verdict somebody can take a step, or the service can bring one about. -/
  waits : c.verdict? = none → Waits authority noise c

/-- **Failures are counted exactly** at every moment of every load test. -/
theorem History.exact (history : History authority noise c es) : Exact authority noise c es where
  said k := (history.standing k).said
  counted _ _ found := history.failed_eq found
  total := history.total
  bounded := history.failures_le
  reported r ended := by
    obtain ⟨elapsed, throughput, rfl⟩ := history.report_eq ended
    rw [← history.total_of_ended ended]
    exact ⟨elapsed, throughput, rfl, lines_summary elapsed throughput _⟩
  verdict _ known := history.verdict_iff known
  waits unknown := history.waits unknown

/-- **The outcome does not hang on who was first**, but on what was replied to each client. -/
theorem History.failures_congr (first : History authority noise c es)
    (second : History authority noise d fs) (ended : c.stage = .ended r)
    (ended' : d.stage = .ended q) (same : ∀ k, k < clientCount →
      Member.replies (ofMember k es) = Member.replies (ofMember k fs)) :
    c.failures = d.failures ∧ r.passed = q.passed := by
  have total : c.failures = d.failures := by
    rw [← UInt64.toNat_inj, first.total_of_ended ended, second.total_of_ended ended']
    refine Finset.sum_congr rfl fun k there => ?_
    rw [missed, missed, same k (Finset.mem_range.mp there)]
  obtain ⟨_, _, rfl⟩ := first.report_eq ended
  obtain ⟨_, _, rfl⟩ := second.report_eq ended'
  exact ⟨total, by rw [total]; rfl⟩

/-- **The load test counts failures exactly.**  It does so whatever the service does to each client
and in whatever order the clients take their steps, it comes to its end, and the program reports
the same as any crowd at its site. -/
theorem failures_counted_exactly (authority : String) (noise : Nat → Nat → UInt64) :
    (∀ {c : Crowd} {es : List Event}, History authority noise c es → Exact authority noise c es) ∧
    (∀ {c : Crowd} {es : List Event} (ls : List Label),
      Machine.run (step authority noise) empty ls = some (c, es) → ls.length ≤ stepBound) ∧
    (∀ {c d : Crowd} {es fs : List Event} {r q : Report},
      History authority noise c es → History authority noise d fs →
      c.stage = .ended r → d.stage = .ended q →
      (∀ k, k < clientCount → Member.replies (ofMember k es) = Member.replies (ofMember k fs)) →
      c.failures = d.failures ∧ r.passed = q.passed) ∧
    (∀ k n k' n', payload (k + 1) n (noise (k + 1) n) = payload (k' + 1) n' (noise (k' + 1) n') →
      k = k' ∧ n = n') ∧
    ∀ {σ : Type} (site : Site σ),
      (∀ {c : Crowd} {es : List Event} {r : Report}, History authority noise c es →
        c.stage = .ended r → At site es → ∃ findings elapsed throughput,
          runLoad site authority noise = some findings ∧
          totalFailed findings = c.failures.toNat ∧ r = loadReport elapsed throughput findings) ∧
      ∀ {findings : List Finding}, runLoad site authority noise = some findings →
        ∃ c es r, History authority noise c es ∧ c.stage = .ended r ∧ At site es := by
  refine ⟨History.exact, fun ls ran => ?_, History.failures_congr, fun k n k' n' same => ?_,
    fun site => ⟨fun {c es r} history ended atSite => ?_, exists_ended_of_runLoad⟩⟩
  · rw [← length_of_run ran]
    exact History.length_le (Machine.reaches_of_run ls ran)
  · obtain ⟨client, request⟩ := payload_inj same
    exact ⟨Nat.succ.inj client, request⟩
  · obtain ⟨findings, program, total⟩ := history.runLoad_of_ended ended atSite
    obtain ⟨elapsed, throughput, report⟩ := history.report_eq ended
    exact ⟨findings, elapsed, throughput, program, total, by rw [report, loadReport, total]⟩

/-! ## A test of a patchy service -/

/-- A service that has a list of replies for each client, or no connection. -/
def scripted (script : Nat → Except Net.Fault (List Reply)) : Site (List Reply) where
  connect := script
  send
    | [], _ => none
    | reply :: rest, _ => some (rest, reply)

/-- What it replies. -/
def repliesTo (script : Nat → Except Net.Fault (List Reply)) (k : Nat) : List Reply :=
  match script k with
  | .ok replies => replies
  | .error _ => []

/-- A schedule of a test of it, in which all clients try to connect, pass the gate, make their
requests and leave in the given order. -/
def schedule (script : Nat → Except Net.Fault (List Reply)) (order : List Nat) : List Label :=
  List.replicate clientCount (.start (.ok ())) ++
    order.map (fun k => .member k (.connect ((script k).map fun _ => ()))) ++
    [.proceed, .proceed] ++ order.map (.member · .enter) ++
    order.flatMap (fun k => (repliesTo script k).map fun r => .member k (.exchange r)) ++
    order.map (.member · .leave) ++ List.replicate clientCount .proceed ++ [.report "1s" "200"]

/-- One client is served well.  To one the reply before is repeated, and then it is hung up on.  One
gets an empty line and then trouble.  The others get no connection. -/
def patchy : Nat → Except Net.Fault (List Reply)
  | 0 => .ok ((List.range requestsPerClient).map fun n => .line (payload 1 n 0))
  | 1 => .ok [.line (payload 2 0 0), .line (payload 2 0 0), .closed]
  | 2 => .ok [.line "", .trouble .tooLong]
  | _ => .error .connectionRefused

/-- What this schedule of the test comes to. -/
def outcome (order : List Nat) : Option (Stage × UInt64 × List (List Reply)) :=
  (Machine.run (step "a" fun _ _ => 0) empty (schedule patchy order)).map fun x =>
    (x.1.stage, x.1.failures, (List.range clientCount).map fun k =>
      Member.replies (ofMember k x.2))

/-- It comes to the same when the clients leave in their order and when they leave the other way
round, and the repeated reply is not taken for that to the second request.  So it does at the site,
where the program counts as many failures as the crowds that it stands for. -/
theorem failures_counted_exactly_patchy :
    (∃ c d es fs r q,
      Machine.run (step "a" fun _ _ => 0) empty (schedule patchy (List.range clientCount)) =
        some (c, es) ∧
      Machine.run (step "a" fun _ _ => 0) empty (schedule patchy (List.range clientCount).reverse) =
        some (d, fs) ∧
      c.stage = .ended r ∧ d.stage = .ended q ∧ Exact "a" (fun _ _ => 0) c es ∧
      r.lines.getLast? = some "189 of 200 requests failed" ∧
      (∑ k ∈ Finset.range clientCount, missed (fun _ _ => 0) es k) = 189 ∧
      (schedule patchy (List.range clientCount)).length ≤ stepBound ∧
      c.failures = 189 ∧ c.failures = d.failures ∧ r.passed = q.passed) ∧
    payload 2 1 0 ≠ payload 2 0 0 ∧
    ∃ c es r findings, History "a" (fun _ _ => 0) c es ∧ c.stage = .ended r ∧
      At (scripted patchy) es ∧ runLoad (scripted patchy) "a" (fun _ _ => 0) = some findings ∧
      totalFailed findings = 189 ∧ c.failures.toNat = 189 := by
  obtain ⟨exact, bounded, congr, distinct, same⟩ := failures_counted_exactly "a" fun _ _ => 0
  have forth : outcome (List.range clientCount) = some (.ended (summary "1s" "200" 189), 189,
      (List.range clientCount).map (repliesTo patchy)) := by decide +kernel
  have back : outcome (List.range clientCount).reverse = some (.ended (summary "1s" "200" 189), 189,
      (List.range clientCount).map (repliesTo patchy)) := by decide +kernel
  have program : (runLoad (scripted patchy) "a" fun _ _ => 0).map totalFailed = some 189 := by
    decide +kernel
  refine ⟨?_, fun repeated => absurd (distinct 1 1 1 0 repeated).2 nofun, ?_⟩
  · obtain ⟨⟨c, es⟩, ran, result⟩ := Option.map_eq_some_iff.mp forth
    obtain ⟨⟨d, fs⟩, ran', result'⟩ := Option.map_eq_some_iff.mp back
    simp only [Prod.mk.injEq] at result result'
    obtain ⟨ended, failures, heard⟩ := result
    obtain ⟨ended', -, heard'⟩ := result'
    have first := Machine.reaches_of_run _ ran
    have sum : ∑ k ∈ Finset.range clientCount, missed (fun _ _ => 0) es k = 189 := by
      rw [← History.total_of_ended first ended, failures]
      rfl
    obtain ⟨elapsed, throughput, -, lines⟩ := (exact first).reported _ ended
    refine ⟨c, d, es, fs, _, _, ran, ran', ended, ended', exact first, ?_, sum, bounded _ ran,
      failures, congr first (Machine.reaches_of_run _ ran') ended ended' fun k less => ?_⟩
    · rw [lines, sum]
      rfl
    · exact List.map_inj_left.mp (heard.trans heard'.symm) k (List.mem_range.mpr less)
  · obtain ⟨findings, found, total⟩ := Option.map_eq_some_iff.mp program
    obtain ⟨c, es, r, history, ended, atSite⟩ := (same (scripted patchy)).2 found
    obtain ⟨findings', -, -, found', total', -⟩ := (same (scripted patchy)).1 history ended atSite
    cases found.symm.trans found'
    exact ⟨c, es, r, findings, history, ended, atSite, found, total, total'.symm.trans total⟩

end LineService.Trial.Crowd
