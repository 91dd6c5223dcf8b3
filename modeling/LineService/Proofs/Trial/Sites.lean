import LineService.Proofs.Trial.Outcome

/-!
# A load test at a site

A crowd that runs at a site tries to connect with the outcomes that the site has for it, and hears
the replies that the site gives (`At`).  The program plays its clients at the site one after the
other, and a crowd has them all at work at once.  It comes to the same: whenever a crowd has come
to its end at a site, the program ends there too, with as many failures (`runLoad_of_ended`) and the
same records (`records_perm`); and wherever the program ends, a crowd can come to its end
(`exists_ended_of_runLoad`).
-/

set_option autoImplicit false

namespace LineService.Trial

open Client (Reply)
open Client.Dialogue (Answered exchanged_done_iff run_eq)

variable {σ : Type} {site : Site σ} {authority : String} {noise : Nat → Nat → UInt64}
  {k : Nat} {f : Finding}

namespace Member

variable {m : Member} {es : List Event} {e : Event}

/-- All that has happened to client `k` at the site is what the site has for it. -/
structure Meets (site : Site σ) (k : Nat) (es : List Event) : Prop where
  attempt : ∀ a, Event.tried a ∈ es → a = (site.connect k).map fun _ => ()
  replies : ∀ s, site.connect k = .ok s → ∃ t, Answered site.send s (exchanges es) t

theorem meets_nil (site : Site σ) (k : Nat) : Meets site k [] :=
  ⟨nofun, fun s _ => ⟨s, .refl s⟩⟩

/-- A step in which the client neither tries to connect nor hears anything. -/
theorem Meets.concat_silent (meets : Meets site k es) (untried : ∀ a, e ≠ .tried a)
    (unheard : e.exchange? = none) : Meets site k (es ++ [e]) := by
  have nothing : exchanges [e] = [] := by
    rw [exchanges_cons, unheard]
    rfl
  refine ⟨fun a there => ?_, fun s connected => ?_⟩
  · rcases List.mem_append.mp there with old | new
    · exact meets.attempt a old
    · exact absurd (List.mem_singleton.mp new).symm (untried a)
  · rw [exchanges_append, nothing, List.append_nil]
    exact meets.replies s connected

/-- A client that has been on its course got no connection, or has heard what the site replies. -/
theorem Meets.cases {attempt : Except Net.Fault Unit} {xs : List (String × Reply)}
    {rest : List Event} (meets : Meets site k (.tried attempt :: rest))
    (said : exchanges rest = xs) :
    (∃ fault, site.connect k = .error fault ∧ attempt = .error fault) ∨
      ∃ s t, site.connect k = .ok s ∧ attempt = .ok () ∧ Answered site.send s xs t := by
  have tried := meets.attempt attempt List.mem_cons_self
  cases connected : site.connect k with
  | error fault =>
      rw [connected] at tried
      exact .inl ⟨fault, rfl, tried⟩
  | ok s =>
      rw [connected] at tried
      obtain ⟨t, answered⟩ := meets.replies s connected
      exact .inr ⟨s, t, rfl, tried, said ▸ answered⟩

/-- What the program finds for a client that gets a connection. -/
theorem load_of_connected {s : σ} (connected : site.connect k = .ok s) :
    site.load authority noise (k + 1) =
      (Client.Dialogue.run site.send s (course authority noise (k + 1) (.ok ()))).map (·.2) := by
  rw [Site.load, Nat.add_sub_cancel, connected]
  rfl

/-- A client that has gone found what the program finds for it. -/
theorem Standing.load_eq (standing : Standing authority noise (k + 1) (.gone f) es)
    (meets : Meets site k es) : site.load authority noise (k + 1) = some f := by
  cases standing with
  | @gone attempt xs f exchanged =>
      have said : exchanges (.entered :: xs.map Event.ofExchange ++ [.left f]) = xs := by
        simp
      rcases meets.cases said with ⟨fault, refused, rfl⟩ | ⟨s, t, connected, rfl, answered⟩
      · obtain ⟨-, ended⟩ := exchanged_done_iff.mp exchanged
        cases ended
        rw [Site.load, Nat.add_sub_cancel, refused]
      · rw [load_of_connected connected, run_eq exchanged answered]
        rfl

/-- A client that the program does not leave waiting gets a reply to its command. -/
theorem Standing.exists_reply {command : String} {go : Reply → Client.Dialogue Finding}
    (standing : Standing authority noise (k + 1) (.asking (.ask command go)) es)
    (meets : Meets site k es) (loads : (site.load authority noise (k + 1)).isSome) :
    ∃ reply, Meets site k (es ++ [.exchanged command reply]) := by
  cases standing with
  | @asking attempt xs d exchanged =>
      have said : exchanges (.entered :: xs.map Event.ofExchange) = xs := by
        simp
      rcases meets.cases said with ⟨fault, -, rfl⟩ | ⟨s, t, connected, rfl, answered⟩
      · cases (exchanged_done_iff.mp exchanged).2
      · rw [load_of_connected connected, run_eq exchanged answered, Option.isSome_map,
          Client.Dialogue.run] at loads
        cases sent : site.send t command with
        | none => simp [sent] at loads
        | some r =>
            obtain ⟨u, reply⟩ := r
            refine ⟨reply, fun a there => ?_, fun s' same => ?_⟩
            · exact meets.attempt a (by simpa using there)
            · cases connected.symm.trans same
              exact ⟨u, by simpa using answered.concat sent⟩

end Member

namespace Crowd

variable {c c' : Crowd} {l : Label} {es : List Event} {e : Event} {r : Report}

/-- The crowd is at this site. -/
def At (site : Site σ) (es : List Event) : Prop :=
  ∀ k, k < clientCount → Member.Meets site k (ofMember k es)

theorem at_nil (site : Site σ) : At site [] := fun k _ => Member.meets_nil site k

theorem At.concat_host (atSite : At site es) (hosts : e.isHosts = true) : At site (es ++ [e]) := by
  intro k less
  have nothing : ofMember k [e] = [] := by
    cases e with
    | member => cases hosts
    | started | notStarted | gathered | opened | joined | reported => rfl
  rw [ofMember_append, nothing, List.append_nil]
  exact atSite k less

theorem At.concat_member {e : Member.Event} (atSite : At site es)
    (meets : Member.Meets site k (ofMember k es ++ [e])) : At site (es ++ [.member k e]) := by
  intro j less
  rw [ofMember_append]
  by_cases same : k = j
  · subst same
    simpa [ofMember, Event.ofMember?] using meets
  · simpa [ofMember, Event.ofMember?, same] using atSite j less

/-! ## The end of the crowd and of the program -/

theorem mapM_eq_map {α β : Type} {g : α → Option β} {h : α → β} (xs : List α)
    (each : ∀ x ∈ xs, g x = some (h x)) : xs.mapM g = some (xs.map h) := by
  induction xs with
  | nil => rfl
  | cons x xs ih =>
      rw [List.mapM_cons, each x List.mem_cons_self,
        ih fun y there => each y (List.mem_cons_of_mem x there)]
      rfl

/-- The members found what the program finds. -/
theorem History.found_of_ended (history : History authority noise c es)
    (ended : c.stage = .ended r) (atSite : At site es) :
    ∃ found : Nat → Finding, (∀ k, k < clientCount → c.members[k]? = some (.gone (found k))) ∧
      runLoad site authority noise = some ((List.range clientCount).map found) := by
  have gone (k : Nat) (less : k < clientCount) : ∃ f,
      c.members[k]? = some (.gone f) ∧ site.load authority noise (k + 1) = some f := by
    obtain ⟨f, here⟩ := history.gone_of_ended ended less
    exact ⟨f, here, (history.standing_of here).load_eq (atSite k less)⟩
  have : Inhabited Finding := ⟨⟨none, []⟩⟩
  choose! found here loads using gone
  exact ⟨found, here, mapM_eq_map _ fun k there => loads k (List.mem_range.mp there)⟩

/-- **A crowd that has come to its end has as many failures as the program finds**, in whatever
order its members have taken their steps. -/
theorem History.runLoad_of_ended (history : History authority noise c es)
    (ended : c.stage = .ended r) (atSite : At site es) :
    ∃ findings, runLoad site authority noise = some findings ∧
      totalFailed findings = c.failures.toNat := by
  obtain ⟨found, here, program⟩ := history.found_of_ended ended atSite
  refine ⟨_, program, ?_⟩
  rw [totalFailed, List.map_map, history.total_of_ended ended]
  change ∑ k ∈ Finset.range clientCount, (found k).cost = _
  refine Finset.sum_congr rfl fun k there => ?_
  have counted := history.failed_eq (found_of_gone (here k (Finset.mem_range.mp there)))
  rw [Finding.cost, counted, Option.getD_some]

theorem coe_flatMap {α β : Type} (g : α → List β) (xs : List α) :
    (xs.flatMap g : Multiset β) = (xs.map fun x => (g x : Multiset β)).sum := by
  rw [← Multiset.coe_bind, Multiset.bind, Multiset.join, Multiset.map_coe, Multiset.sum_coe]

/-- A host that could not start a member gives the test up for good. -/
theorem History.givenUp_of_notStarted {fault : Net.Fault} (history : History authority noise c es)
    (there : Event.notStarted fault ∈ es) : c.stage = .givenUp := by
  induction history with
  | refl => cases there
  | @tail s t es fs l earlier taken ih =>
      have turn := turn_of_step taken
      rcases List.mem_append.mp there with old | new
      · have givenUp := ih old
        cases turn with
        | moved => exact givenUp
        | started stage | givenUp _ stage | gathered stage | opened stage | joined stage
        | reported _ _ stage => cases stage.symm.trans givenUp
      · cases turn with
        | givenUp => rfl
        | moved | started | gathered | opened | joined | reported =>
            cases List.mem_singleton.mp new

/-- **A crowd that has come to its end has reported what the program reports**, though perhaps in
another order. -/
theorem History.records_perm (history : History authority noise c es) (ended : c.stage = .ended r)
    (atSite : At site es) {findings : List Finding}
    (program : runLoad site authority noise = some findings) :
    (es.flatMap Event.records).Perm (findings.flatMap (·.records)) := by
  obtain ⟨found, here, program'⟩ := history.found_of_ended ended atSite
  cases program.symm.trans program'
  have host : ((ofHost es).map fun e => (e.records : Multiset Journal.Record)).sum = 0 := by
    refine List.sum_eq_zero fun x weighs => ?_
    obtain ⟨e, here, rfl⟩ := List.mem_map.mp weighs
    obtain ⟨there, isHosts⟩ := List.mem_filter.mp here
    cases e with
    | notStarted => cases ended.symm.trans (history.givenUp_of_notStarted there)
    | member => cases isHosts
    | started | gathered | opened | joined | reported => rfl
  rw [← Multiset.coe_eq_coe, coe_flatMap, coe_flatMap, sum_map_eq _ history.within, host, zero_add,
    List.map_map]
  change _ = ∑ k ∈ Finset.range clientCount, ((found k).records : Multiset Journal.Record)
  refine Finset.sum_congr rfl fun k there => ?_
  have silent (e : Member.Event) (stays : ∀ f, e ≠ .left f) :
      ((Event.member k e).records : Multiset Journal.Record) = 0 := by
    cases e with
    | tried | entered | exchanged => rfl
    | left f => exact absurd rfl (stays f)
  rw [(history.standing_of (here k (Finset.mem_range.mp there))).sum_map_eq silent]
  rfl

/-- **Where the program is not left waiting, nor is a crowd.** -/
theorem History.exists_next (history : History authority noise c es) (atSite : At site es)
    (unknown : c.verdict? = none)
    (loads : ∀ k, k < clientCount → (site.load authority noise (k + 1)).isSome) :
    ∃ c' e, History authority noise c' (es ++ [e]) ∧ At site (es ++ [e]) ∧
      c'.stage ≠ .givenUp := by
  have going : c.stage ≠ .givenUp := by
    intro givenUp
    simp [verdict?, givenUp] at unknown
  cases history.waits unknown with
  | turn l free enabled =>
      obtain ⟨⟨c', es'⟩, taken⟩ := Option.isSome_iff_exists.mp enabled
      cases turn_of_step taken with
      | givenUp => cases free
      | started => exact ⟨_, _, history.tail taken, atSite.concat_host rfl, going⟩
      | gathered | opened | joined | reported =>
          exact ⟨_, _, history.tail taken, atSite.concat_host rfl, fun same => by cases same⟩
      | moved here _ moved =>
          refine ⟨_, _, history.tail taken, atSite.concat_member ?_, going⟩
          have meets := atSite _ (history.placed.less here)
          cases Member.turn_of_step moved with
          | tried | exchanged => cases free
          | entered | left => exact meets.concat_silent (fun _ same => by cases same) rfl
  | attempt k here _ =>
      refine ⟨_, _, history.tail (step_member here rfl rfl :
        step authority noise c (.member k (.connect ((site.connect k).map fun _ => ()))) = _),
        atSite.concat_member ?_, going⟩
      have standing := history.standing_of here
      generalize ofMember k es = fs at standing
      cases standing
      refine ⟨fun a there => ?_, fun s _ => ⟨s, .refl s⟩⟩
      cases List.mem_singleton.mp there
      rfl
  | reply k command go here _ =>
      have less := history.placed.less here
      obtain ⟨reply, meets⟩ :=
        (history.standing_of here).exists_reply (atSite k less) (loads k less)
      exact ⟨_, _, history.tail (step_member here rfl rfl :
        step authority noise c (.member k (.exchange reply)) = _),
        atSite.concat_member meets, going⟩

/-- A crowd at a site can go on to its end. -/
theorem History.exists_ended {c : Crowd} {es : List Event}
    (history : History authority noise c es) (atSite : At site es) (going : c.stage ≠ .givenUp)
    (loads : ∀ k, k < clientCount → (site.load authority noise (k + 1)).isSome) :
    ∃ c es r, History authority noise c es ∧ c.stage = .ended r ∧ At site es := by
  cases stage : c.stage with
  | ended r => exact ⟨c, es, r, history, stage, atSite⟩
  | givenUp => exact absurd stage going
  | starting | gathered | joining =>
      obtain ⟨c', e, next, there, still⟩ :=
        history.exists_next atSite (by simp [verdict?, stage]) loads
      have nearer : stepBound - (es ++ [e]).length < stepBound - es.length := by
        have most := next.length_le
        rw [List.length_append, List.length_singleton] at most ⊢
        omega
      exact History.exists_ended next there still loads
termination_by stepBound - es.length

theorem isSome_of_mapM {α β : Type} {g : α → Option β} {xs : List α} {ys : List β}
    (all : xs.mapM g = some ys) : ∀ x ∈ xs, (g x).isSome := by
  induction xs generalizing ys with
  | nil => nofun
  | cons x xs ih =>
      rw [List.mapM_cons] at all
      obtain ⟨y, first, others⟩ := Option.bind_eq_some_iff.mp all
      obtain ⟨zs, rest, -⟩ := Option.bind_eq_some_iff.mp others
      intro z there
      rcases List.mem_cons.mp there with rfl | later
      · rw [first]
        rfl
      · exact ih rest z later

/-- **Wherever the program ends, a crowd can come to its end.** -/
theorem exists_ended_of_runLoad {findings : List Finding}
    (program : runLoad site authority noise = some findings) :
    ∃ c es r, History authority noise c es ∧ c.stage = .ended r ∧ At site es :=
  History.exists_ended .refl (at_nil site) nofun fun k less =>
    isSome_of_mapM program k (List.mem_range.mpr less)

end Crowd

end LineService.Trial
