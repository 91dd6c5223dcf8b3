import LineService.Proofs.Service.Shared

/-!
# Which connections are offered to the crew

A reception accepts connections until it is asked to stop, and offers to the crew those after which
it has not seen a request.  Accepting fails now and then, the crew may have been shut down by others
and refuse a connection, and the request can come at any moment.

What the crew is offered is what the reception says it offered (`submissions_of_reaches`).  So the
connections that are offered and their order, and how many still are after a request, are known from
the reception alone; the connections keep the numbers they got there (`History.numbered`), and a
connection that the crew refused is closed and stays so (`History.closed`).  Together they say that
the reception offers the right connections (`right_connections_offered`).
-/

set_option autoImplicit false

namespace LineService

namespace Crew

variable {α : Type} {c d : Crew α} {l : Label α} {es fs : List (Event α)}

/-- A task that is offered to the crew, and whether it was accepted. -/
def Event.answer? : Event α → Option (α × Bool)
  | .queue (.accepted a) => some (a, true)
  | .queue (.refused a) => some (a, false)
  | _ => none

/-- The tasks offered to the crew, in the order in which they were, each with whether it was
accepted. -/
def answers (es : List (Event α)) : List (α × Bool) := es.filterMap Event.answer?

@[simp] theorem answers_append (es fs : List (Event α)) :
    answers (es ++ fs) = answers es ++ answers fs := List.filterMap_append

/-- Only a task that is offered is answered. -/
theorem answers_of_turn (turn : Turn c l d fs) (other : ∀ a pick, l ≠ .submit a pick) :
    answers fs = [] := by
  cases turn with
  | accepted a pick | refused a pick => exact absurd rfl (other a pick)
  | _ => rfl

end Crew

namespace Service

namespace Shared

open Machine (Reaches watched seen happened)

variable {s t : Service} {l : Label} {es : List Entry}
  {vs ws : List (Reception.Glance Nat ⊕ Entry)}

/-! ## What the crew is offered -/

/-- What accepting has returned, in the order in which it has. -/
def outcomes (ws : List (Reception.Glance Nat ⊕ Entry)) : List (Reception.Outcome Nat) :=
  Reception.outcomes (receptionEvents (happened ws))

/-- The connections offered to the crew, in the order in which they were, each with whether the crew
took it over. -/
def submissions (ws : List (Reception.Glance Nat ⊕ Entry)) : List (Nat × Bool) :=
  Crew.answers (crewEvents (happened ws))

/-- A reception that settles no connection offers none. -/
theorem offers_of_settled {rs : List (Reception.Event Nat)} (going : Reception.settled rs = []) :
    Reception.offers rs = [] := by
  refine List.eq_nil_iff_forall_not_mem.mpr fun ⟨c, id, taken⟩ member => ?_
  have here : (c, id) ∈ Reception.offered rs := List.mem_map.mpr ⟨_, member, rfl⟩
  have settled := Reception.mem_settled_of_mem_offered here
  rw [going] at settled
  cases settled

/-- The crew is offered what the reception offers. -/
theorem answers_of_own {l : Service.Label} (turn : Service.Turn s l t es) :
    Crew.answers (crewEvents es) =
      (Reception.offers (receptionEvents es)).map fun o => (o.1, o.2.2) := by
  cases turn with
  | @joined _ x m r rs _ _ arrives taken =>
      have nothing : Reception.offers rs = [] := by
        cases Reception.turn_of_step taken with
        | connected | woke => rfl
        | _ => cases arrives
      rw [crewEvents_ofReception, receptionEvents_ofReception, nothing]
      rfl
  | received _ _ going =>
      rw [crewEvents_ofReception, receptionEvents_ofReception, offers_of_settled going]
      rfl
  | numbered | turnedAway =>
      rw [crewEvents_ofReception, receptionEvents_ofReception]
      rfl
  | handed | refused => simp [Crew.answers, Reception.offers, Crew.Event.answer?,
      Reception.Event.offer?]
  | queued queueing taken =>
      obtain ⟨-, -, other, -⟩ := Crew.of_queueing queueing
      rw [crewEvents_ofCrew, receptionEvents_ofCrew,
        Crew.answers_of_turn (Crew.turn_of_step taken) other]
      rfl
  | closing _ _ taken =>
      simp [Crew.answers_of_turn (Crew.turn_of_step taken), Reception.offers]
  | advanced _ taken =>
      simp [Crew.answers_of_turn (Crew.turn_of_step taken), Reception.offers]
  | retired => simp [Crew.answers, Crew.Event.answer?, Reception.offers]
  | heard | served => simp [Crew.answers, Reception.offers]
  | unheard | ended => rfl

theorem answers_of_turn (turn : Turn s l t es) : Crew.answers (crewEvents es) =
    (Reception.offers (receptionEvents es)).map fun o => (o.1, o.2.2) := by
  cases turn with
  | own turn => exact answers_of_own turn
  | elsewhere other taken =>
      rw [crewEvents_ofCrew, receptionEvents_ofCrew,
        Crew.answers_of_turn (Crew.turn_of_step taken) other]
      rfl

/-- **The crew is offered what the reception offers**, and answers what the reception hears. -/
theorem submissions_of_reaches (reached : Reaches (watched step glance) s t ws) : submissions ws =
    (Reception.offers (receptionEvents (happened ws))).map fun o => (o.1, o.2.2) := by
  induction reached with
  | refl => rfl
  | tail _ taken ih =>
      obtain ⟨stepped, -⟩ := Machine.of_watched taken
      rw [submissions, Machine.happened_append, crewEvents_append, Crew.answers_append,
        ← submissions, ih, answers_of_turn (turn_of_step stepped), receptionEvents_append,
        Reception.offers_append, List.map_append]

/-- A connection that the crew does not accept the reception reports as refused. -/
theorem mem_refused_of_answers (turn : Turn s l t es) {c : Nat}
    (refused : (c, false) ∈ Crew.answers (crewEvents es)) :
    c ∈ Reception.refused (receptionEvents es) := by
  rw [answers_of_turn turn, List.mem_map] at refused
  obtain ⟨⟨d, id, taken⟩, offer, same⟩ := refused
  cases same
  obtain ⟨e, happened, view⟩ := List.mem_filterMap.mp offer
  refine List.mem_filterMap.mpr ⟨e, happened, ?_⟩
  cases e <;> cases view
  rfl

/-- The step by which a connection is refused closes it. -/
theorem discarded_of_refused (turn : Turn s l t es) {c : Nat} {y : Session}
    (refused : c ∈ Reception.refused (receptionEvents es)) (here : t.sessions[c]? = some y) :
    y.phase = .discarded := by
  have unserved : c ∈ Service.unserved es := by
    simp [Service.unserved, refused]
  cases turn with
  | elsewhere => simp [Reception.refused] at refused
  | own turn =>
      rcases turn.change here with ⟨-, -, -, -, spared⟩ | ⟨x, -, change⟩
      · exact absurd unserved spared
      · cases change with
        | kept _ _ spared | served _ _ spared => exact absurd unserved spared
        | discarded closed => rw [closed]

/-! ## Histories -/

/-- A service that numbers its connections from one can come to be `s`, with a crew that had been
handed over before and may be shut down by others; `ws` is what has happened, and what the reception
has read. -/
def History (s : Service) (ws : List (Reception.Glance Nat ⊕ Entry)) : Prop :=
  ∃ crew : Crew Nat, crew.ready = true ∧ Reaches (watched step glance) (new crew 1) s ws

namespace History

/-- What holds of a service that is about to start and is kept by every step holds always. -/
theorem induct {motive : (s : Service) → (ws : List (Reception.Glance Nat ⊕ Entry)) →
      History s ws → Prop}
    (start : ∀ {crew : Crew Nat} (_ : crew.ready = true) history, motive (new crew 1) [] history)
    (next : ∀ {s t : Service} {ws vs : List (Reception.Glance Nat ⊕ Entry)} {l : Label}
      (before : History s ws), step s l = some (t, happened vs) →
      ∀ history : History t (ws ++ vs), motive s ws before → motive t (ws ++ vs) history)
    {s : Service} {ws : List (Reception.Glance Nat ⊕ Entry)} (history : History s ws) :
    motive s ws history := by
  obtain ⟨crew, usable, reached⟩ := history
  induction reached with
  | refl => exact start usable _
  | tail before taken ih =>
      exact next ⟨crew, usable, before⟩ (Machine.of_watched taken).1 _ ih

theorem submissions_eq (history : History s ws) : submissions ws =
    (Reception.offers (receptionEvents (happened ws))).map fun o => (o.1, o.2.2) := by
  obtain ⟨crew, -, reached⟩ := history
  exact submissions_of_reaches reached

theorem reception (history : History s ws) :
    Reaches (watched Reception.step Reception.glance) (.new 1) s.reception
      (ws.filterMap (Machine.noted Entry.reception?)) := by
  obtain ⟨crew, -, reached⟩ := history
  exact reaches_reception reached

theorem reception_unwatched (history : History s ws) :
    Reaches Reception.step (.new 1) s.reception (receptionEvents (happened ws)) :=
  Machine.reaches_iff_watched.mpr ⟨_, history.reception, Machine.happened_filterMap_noted ws⟩

/-- A crew that can be used stays so, whoever shuts it down. -/
theorem usable (history : History s ws) : s.crew.ready = true := by
  induction history using History.induct with
  | start usable => exact usable
  | next _ taken _ ih =>
      generalize happened _ = es at taken
      cases turn_of_step taken with
      | own turn =>
          rcases turn.crew with ⟨same, -⟩ | ⟨m, worked⟩
          · rw [same, ih]
          · exact Crew.ready_of_reaches ih (.single worked)
      | elsewhere _ worked =>
          rw [discards_crew]
          exact Crew.ready_of_reaches ih (.single worked)

/-- What accepting has returned, and what waits, are all connections in the order in which they were
made. -/
theorem listed (history : History s ws) :
    Reception.returned (receptionEvents (happened ws)) ++ s.reception.backlog =
      List.range s.sessions.length := by
  induction history using History.induct with
  | start => rfl
  | @next s t ws vs l before taken _ ih =>
      rw [Machine.happened_append, receptionEvents_append, Reception.returned_append]
      generalize happened vs = es at taken
      cases turn_of_step taken with
      | own turn =>
          obtain ⟨made, backlog, sessions⟩ := turn.arrivals
          rw [List.append_assoc, backlog, ← List.append_assoc, ih, sessions]
      | elsewhere => simpa [Reception.returned] using ih

/-- The connection that accepting has returned last has not been settled before. -/
theorem not_settled (history : History s ws) {c : Nat}
    (judging : s.reception.phase = .judging (.connection c)) :
    c ∉ Reception.settled (receptionEvents (happened ws)) := by
  have distinct : (Reception.returned (receptionEvents (happened ws))).Nodup :=
    (List.nodup_append.mp (history.listed ▸ List.nodup_range)).1
  rw [Reception.returned_eq_settled history.reception_unwatched, Reception.inHand, judging,
    List.nodup_append] at distinct
  exact fun member => distinct.2.2 c member c (List.mem_singleton_self c) rfl

/-- A connection with which the reception is done, or which it has in hand, has been made. -/
theorem lt_of_mem (history : History s ws) {c : Nat} (known :
      c ∈ Reception.settled (receptionEvents (happened ws)) ++ s.reception.inHand) :
    c < s.sessions.length := by
  rw [← Reception.returned_eq_settled history.reception_unwatched] at known
  rw [← List.mem_range, ← history.listed]
  exact List.mem_append_left _ known

/-- **A connection keeps the number under which it is offered.** -/
theorem numbered (history : History s ws) {c : Nat} {id : UInt32}
    (given : (c, id) ∈ Reception.offered (receptionEvents (happened ws)) ++ s.reception.held) :
    s.numbers[c]? = some id := by
  induction history using History.induct generalizing c id with
  | start => cases given
  | @next s t ws vs l before taken _ ih =>
      -- A connection is looked at before it gets its number, and only once.
      have kept {c : Nat} {id : UInt32} (earlier : (c, id) ∈
          Reception.offered (receptionEvents (happened ws)) ++ s.reception.held) :
          t.numbers[c]? = some id := by
        rcases number_of_step taken (ih earlier) with ⟨kept, -⟩ | ⟨judging, -⟩
        · exact kept
        · rw [Reception.held, judging, List.append_nil] at earlier
          exact absurd (Reception.mem_settled_of_mem_offered earlier) (before.not_settled judging)
      rw [Machine.happened_append, receptionEvents_append, Reception.offered_append,
        List.append_assoc] at given
      rcases reception_of_step taken with ⟨-, same, silent⟩ | ⟨m, -, took⟩
      · rw [same, silent] at given
        exact kept given
      · rcases Reception.numbered_of_turn (Reception.turn_of_step took) with
          ⟨same, -⟩ | ⟨d, -, judging, -, accepted, held, -⟩
        · rw [← same] at given
          exact kept given
        · rw [accepted, held, List.mem_append] at given
          rcases given with earlier | now
          · exact kept (List.mem_append_left _ earlier)
          · cases List.mem_singleton.mp now
            have held : c ∈ s.reception.inHand := by simp [Reception.inHand, judging]
            have less := before.lt_of_mem (List.mem_append_right _ held)
            obtain ⟨old, there⟩ : ∃ old, s.numbers[c]? = some old :=
              ⟨_, List.getElem?_eq_getElem (by simpa using less)⟩
            rcases number_of_step taken there with ⟨-, numberless⟩ | ⟨-, numbered⟩
            · exact absurd (by rw [accepted]; exact List.mem_singleton_self _) (numberless _)
            · exact numbered

/-- **A connection that the crew refused is closed**, and stays so. -/
theorem closed (history : History s ws) {c : Nat} (refused : (c, false) ∈ submissions ws) :
    ∃ x, s.sessions[c]? = some x ∧ x.phase = .discarded := by
  induction history using History.induct generalizing c with
  | start => cases refused
  | @next s t ws vs l before taken after ih =>
      rw [submissions, Machine.happened_append, crewEvents_append, Crew.answers_append,
        List.mem_append] at refused
      rcases refused with earlier | now
      · obtain ⟨x, here, closed⟩ := ih earlier
        exact discarded_of_step taken here closed
      · have refused := mem_refused_of_answers (turn_of_step taken) now
        have settled : c ∈ Reception.settled (receptionEvents (happened (ws ++ vs))) := by
          rw [Machine.happened_append, receptionEvents_append, Reception.settled_append]
          exact List.mem_append_right _ (Reception.mem_settled_of_mem_refused refused)
        have less := after.lt_of_mem (List.mem_append_left _ settled)
        exact ⟨_, List.getElem?_eq_getElem less,
          discarded_of_refused (turn_of_step taken) refused (List.getElem?_eq_getElem less)⟩

end History

/-! ## The next step of the reception -/

/-- A connection that is offered is accepted exactly if the crew's queue is open, and in either case
the reception goes on. -/
theorem step_hand (usable : s.crew.ready = true) {c : Nat} {id : UInt32}
    (handing : s.reception.phase = .handing c id) (pick : Nat) :
    ∃ t es, step s (.own (.hand pick)) = some (t, es) ∧
      Crew.answers (crewEvents es) = [(c, !s.crew.queue.closed)] ∧
      t.reception = { s.reception with phase := .checking } := by
  cases queue : s.crew.queue.closed with
  | true =>
      have refused := Crew.step_submit_of_closed usable queue c pick
      refine ⟨{ s with reception := { s.reception with phase := .checking } }.discard c,
        ofCrew [.queue (.refused c)] ++ ofReception [.refused c id], ?_, rfl, rfl⟩
      simp [step, recorded, Service.step, handing, crewStep, refused, receptionStep, Reception.step,
        notes, touches, release, heed, ofCrew, ofReception]
  | false =>
      obtain ⟨d, accepted, -⟩ := Crew.step_submit_of_open usable queue c pick
      refine ⟨{ s with crew := d, reception := { s.reception with phase := .checking } },
        ofCrew [.queue (.accepted c)] ++ ofReception [.handed c id], ?_, rfl, rfl⟩
      simp [step, recorded, Service.step, handing, crewStep, accepted, receptionStep,
        Reception.step, notes, touches, release, heed, ofCrew, ofReception]

/-- An error of accepting costs nothing where stopping has not been requested. -/
theorem step_look_of_failed {f : Net.Fault} (judging : s.reception.phase = .judging (.failed f))
    (unasked : s.reception.requested = false) : step s (.own .look) =
      some ({ s with reception := { s.reception with phase := .checking } },
        ofReception [.acceptFailed f]) := by
  simp [step, recorded, Service.step, receptionStep, Reception.step, Reception.look, judging,
    unasked, notes, touches, heed, ofReception]

/-- A reception that is not blocked goes on until it is over. -/
theorem exists_step (usable : s.crew.ready = true) (going : s.reception.phase ≠ .over)
    (free : ¬ s.reception.Blocked) : ∃ l, l.isReception = true ∧ (step s l).isSome := by
  obtain ⟨m, own, enabled⟩ := Reception.exists_own_step going free
  obtain ⟨⟨r, rs⟩, taken⟩ := Option.isSome_iff_exists.mp enabled
  cases Reception.turn_of_step taken with
  | handed c id handing | refused c id handing =>
      obtain ⟨t, es, stepped, -⟩ := step_hand usable handing 0
      exact ⟨.own (.hand 0), rfl, by rw [stepped]; rfl⟩
  | returned =>
      exact ⟨.own .accept, rfl, by simp [step, recorded, Service.step, receptionStep, taken]⟩
  | failed f =>
      exact ⟨.own (.fail f), rfl, by simp [step, recorded, Service.step, receptionStep, taken]⟩
  | connected | requested | repeated | woke | unwoken => cases own
  | _ => exact ⟨.own .look, rfl, by simp [step, recorded, Service.step, receptionStep, taken]⟩

/-- A step of the reception brings it nearer to its end once it has been asked to stop, and no other
step does. -/
theorem stepsLeft_of_step (taken : step s l = some (t, es)) (asked : s.reception.requested = true) :
    l.isReception.toNat + t.reception.stepsLeft = s.reception.stepsLeft ∧
      t.reception.requested = true := by
  rw [isReception_eq s l]
  rcases reception_of_step taken with ⟨nothing, same, -⟩ | ⟨m, spoken, took⟩
  · rw [nothing, same]
    exact ⟨Nat.zero_add _, asked⟩
  · have turn := Reception.turn_of_step took
    rw [spoken]
    exact ⟨Reception.stepsLeft_of_turn turn asked, (Reception.over_of_turn turn).2 asked⟩

/-- After a request the reception takes as many steps as it has left, whatever happens around it. -/
theorem stepsLeft_of_run (asked : s.reception.requested = true) (ls : List Label)
    (ran : Machine.run (watched step glance) s ls = some (t, vs)) :
    ls.countP Label.isReception + t.reception.stepsLeft = s.reception.stepsLeft :=
  Machine.countP_of_run (fun s => s.reception.requested = true)
    (fun taken asked => stepsLeft_of_step (Machine.of_watched taken).1 asked) asked ls ran

/-- After a request accepting returns once more, or one more connection is offered, or neither. -/
theorem chances_of_reaches (asked : s.reception.requested = true)
    (reached : Reaches (watched step glance) s t vs) :
    (outcomes vs).length + (submissions vs).length ≤ 1 := by
  have few := s.reception.chances_le
  have reception : Reaches Reception.step s.reception t.reception (receptionEvents (happened vs)) :=
    Machine.reaches_iff_watched.mpr
      ⟨_, reaches_reception reached, Machine.happened_filterMap_noted vs⟩
  have left := (Reception.chances_of_reaches asked reception).1
  rw [outcomes, submissions_of_reaches reached, List.length_map]
  omega

/-! ## The right connections -/

/-- The connection that is offered after `k` others has the number `k + 1`, but for whole turns of
32 bits, and if it was refused it is closed. -/
theorem History.offered (history : History s ws) {k c : Nat} {taken : Bool}
    (there : (submissions ws)[k]? = some (c, taken)) : ∃ x, s.sessions[c]? = some x ∧
      x.id.toNat = (k + 1) % 2 ^ 32 ∧
      (taken = false → x.phase = .discarded ∧ x.isOpen = false) := by
  have offers := there
  rw [history.submissions_eq, List.getElem?_map, Option.map_eq_some_iff] at offers
  obtain ⟨⟨d, id, answer⟩, offer, same⟩ := offers
  obtain ⟨rfl, rfl⟩ := Prod.mk.inj same
  have given : (Reception.offered (receptionEvents (happened ws)))[k]? = some (d, id) := by
    rw [Reception.offered, List.getElem?_map, offer]
    rfl
  have number := Reception.number_of_offer history.reception_unwatched given
  have kept := history.numbered (List.mem_append_left _ (List.mem_of_getElem? given))
  rw [numbers, List.getElem?_map, Option.map_eq_some_iff] at kept
  obtain ⟨x, here, numbered⟩ := kept
  refine ⟨x, here, by rw [numbered, number, Reception.number_one_toNat], fun refused => ?_⟩
  obtain ⟨y, found, closed⟩ := history.closed (refused ▸ List.mem_of_getElem? there)
  rw [Option.some.inj (here.symm.trans found)]
  exact ⟨closed, by rw [Session.isOpen, closed]⟩

/-- **The reception offers the right connections.**

Let accepting return connections and errors in any order, let stopping be requested and the crew be
shut down by others at any moment.

* Each outcome of accepting is looked at once, in order, together with whether stopping has been
  requested; and the connections offered to the crew are those after which it had not been, in the
  same order, but for the one that is about to be offered.
* The connection that is offered after `k` others has the number `k + 1`, but for whole turns of 32
  bits, and if the crew refused it, it is closed.
* A connection is accepted if the crew's queue is open and otherwise refused, and in either case the
  reception goes on.
* An error of accepting, where stopping has not been requested, changes nothing but that the
  reception goes on.
* The reception is over only if stopping has been requested, and otherwise goes on unless nothing
  waits to be accepted.
* Once stopping has been requested, accepting returns once more, or one more connection is offered,
  or neither, and the reception is over after two more steps of its own at the latest. -/
theorem right_connections_offered (history : History s ws) :
    outcomes ws = (seen ws).map Reception.Glance.outcome ++ s.reception.unread ∧
      (submissions ws).map Prod.fst ++ s.reception.held.map Prod.fst =
        Reception.cleared (seen ws) ∧
      (∀ k c taken, (submissions ws)[k]? = some (c, taken) → ∃ x, s.sessions[c]? = some x ∧
        x.id.toNat = (k + 1) % 2 ^ 32 ∧
          (taken = false → x.phase = .discarded ∧ x.isOpen = false)) ∧
      (∀ c id pick, s.reception.phase = .handing c id →
        ∃ t es, step s (.own (.hand pick)) = some (t, es) ∧
          Crew.answers (crewEvents es) = [(c, !s.crew.queue.closed)] ∧
          t.reception = { s.reception with phase := .checking }) ∧
      (∀ f, s.reception.phase = .judging (.failed f) → s.reception.requested = false →
        step s (.own .look) =
          some ({ s with reception := { s.reception with phase := .checking } },
            ofReception [.acceptFailed f])) ∧
      (s.reception.phase = .over → s.reception.requested = true) ∧
      (s.reception.phase ≠ .over → ¬ s.reception.Blocked →
        ∃ l, l.isReception = true ∧ (step s l).isSome) ∧
      (s.reception.requested = true → ∀ ls t vs,
        Machine.run (watched step glance) s ls = some (t, vs) →
          (outcomes vs).length + (submissions vs).length ≤ 1 ∧
          ls.countP Label.isReception ≤ 2 ∧
          (ls.countP Label.isReception = s.reception.stepsLeft ↔ t.reception.phase = .over)) := by
  have watching := history.reception
  refine ⟨?judged, ?cleared, fun _ _ _ => history.offered,
    fun c id pick handing => step_hand history.usable handing pick,
    fun f => step_look_of_failed, Reception.requested_of_over history.reception_unwatched,
    exists_step history.usable, fun asked ls t vs ran => ?last⟩
  case judged =>
    have judged := Reception.outcomes_eq_glances watching
    rwa [Machine.happened_filterMap_noted, Machine.seen_filterMap_noted] at judged
  case cleared =>
    have cleared := Reception.offers_eq_cleared watching
    rw [Machine.happened_filterMap_noted, Machine.seen_filterMap_noted] at cleared
    rw [history.submissions_eq, List.map_map]
    rw [Reception.offered, List.map_map] at cleared
    exact cleared
  case last =>
    have left := stepsLeft_of_run asked ls ran
    have few := s.reception.stepsLeft_le
    refine ⟨chances_of_reaches asked (Machine.reaches_of_run ls ran), by omega, ?_⟩
    rw [← Reception.stepsLeft_eq_zero]
    omega

/-- Accepting fails once, the first connection is accepted by the crew, others shut the crew down,
and the second connection is refused.  Stopping is requested while the reception is accepting again;
the third connection is turned away, and the reception is over. -/
theorem right_connections_offered_shut_down : ∃ s t ws vs, History s ws ∧
    Machine.run (watched step glance) s [.own .accept, .own .look] = some (t, vs) ∧
    outcomes (ws ++ vs) =
      [.failed (.other "busy"), .connection 0, .connection 1, .connection 2] ∧
    Reception.cleared (seen (ws ++ vs)) = [0, 1] ∧ submissions ws = [(0, true), (1, false)] ∧
    (∃ x, s.sessions[1]? = some x ∧ x.id.toNat = 2 ∧ x.isOpen = false) ∧
    t.reception.phase = .over ∧ (outcomes vs).length + (submissions vs).length ≤ 1 := by
  have history : History _ _ := ⟨Crew.opened 1, rfl, Machine.reaches_of_run
    [.own (.connect "a"), .own .look, .own .look, .own (.fail (.other "busy")), .own .look,
      .own .look, .own .accept, .own .look, .own (.hand 0), .shutdown 7, .advance,
      .own (.connect "b"), .own .look, .own .accept, .own .look, .own (.hand 0),
      .own (.connect "c"), .own .look, .own (.request 0)] rfl⟩
  obtain ⟨-, -, offered, -, -, -, -, last⟩ := right_connections_offered history
  obtain ⟨few, -, past⟩ := last rfl [.own .accept, .own .look] _ _ rfl
  obtain ⟨x, here, number, closed⟩ := offered 1 1 false rfl
  exact ⟨_, _, _, _, history, rfl, rfl, rfl, rfl, ⟨x, here, number, (closed rfl).2⟩, past.mp rfl,
    few⟩

end Shared

end Service

end LineService
