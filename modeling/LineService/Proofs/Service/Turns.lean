import LineService.Proofs.Crew.Founding
import LineService.Proofs.Reception.Turns
import LineService.Proofs.Service.Record

/-!
# A service and all that happens in it

`Turn` says of every step of a service what it needs, leaves and records (`turn_of_step`): a step
of the reception, a step of the crew, a step of one session, or several of these at once.

`History n s es` says that a service with `n` workers can come to be `s`, from the moment when its
crew has been founded, and that `es` is the record of it.  A service shows a run of its crew
(`History.crew`) and a run of its reception (`History.reception`), and what is known of these is
known of them in every service.
-/

set_option autoImplicit false

namespace LineService.Service

/-! ## Turns -/

variable {s t : Service} {l : Label} {n : Nat} {es fs : List Entry}

/-- What a step needs, leaves and records. -/
inductive Turn (s : Service) : Label → Service → List Entry → Prop where
  /-- Somebody connects: a client, or whoever wakes the reception. -/
  | joined {l : Label} (x : Session) {m : Reception.Label Nat} {r : Reception Nat}
      {rs : List (Reception.Event Nat)} (new : Session.Course x.peer x [])
      (fresh : x.phase = .fresh) (arrives : m.arrivals = [s.sessions.length])
      (received : s.reception.step m = some (r, rs)) :
      Turn s l { s with sessions := s.sessions ++ [x], reception := r } (ofReception rs)
  /-- Something happens to a connection that the service does not do. -/
  | heard {l : Label} (n : Nat) {m : Session.Label} {x y : Session} {fs : List Session.Event}
      (here : s.sessions[n]? = some x) (outside : ∀ now active, m ≠ .turn now active)
      (undiscarded : m ≠ .discard) (taken : x.step m = some (y, fs)) :
      Turn s l { s with sessions := s.sessions.set n y } (ofNotes n fs)
  /-- There is no such connection. -/
  | unheard {l : Label} : Turn s l s []
  /-- A step of the reception that changes no connection. -/
  | received {l : Label} {m : Reception.Label Nat} {r : Reception Nat}
      {rs : List (Reception.Event Nat)} (taken : s.reception.step m = some (r, rs))
      (nobody : m.arrivals = []) (going : Reception.settled rs = []) :
      Turn s l { s with reception := r } (ofReception rs)
  | numbered (c : Nat) (id : UInt32) {r : Reception Nat}
      (taken : s.reception.step .look = some (r, [.accepted c id])) :
      Turn s .look ({ s with reception := r }.onSession c fun x => { x with id := id })
        (ofReception [.accepted c id])
  | turnedAway (c : Nat) {r : Reception Nat}
      (taken : s.reception.step .look = some (r, [.turnedAway c, .stopping])) :
      Turn s .look ({ s with reception := r }.discard c) (ofReception [.turnedAway c, .stopping])
  | handed (pick c : Nat) (id : UInt32) {d : Crew Nat} {r : Reception Nat}
      (submitted : s.crew.step (.submit c pick) = some (d, [.queue (.accepted c)]))
      (taken : s.reception.step (.hand true) = some (r, [.handed c id])) :
      Turn s (.hand pick) { s with crew := d, reception := r }
        (ofCrew [.queue (.accepted c)] ++ ofReception [.handed c id])
  | refused (pick c : Nat) (id : UInt32) {d : Crew Nat} {r : Reception Nat}
      (submitted : s.crew.step (.submit c pick) = some (d, [.queue (.refused c)]))
      (taken : s.reception.step (.hand false) = some (r, [.refused c id])) :
      Turn s (.hand pick) ({ s with crew := d, reception := r }.discard c)
        (ofCrew [.queue (.refused c)] ++ ofReception [.refused c id])
  /-- A worker at the queue. -/
  | queued {l : Label} {m : Crew.Label Nat} {d : Crew Nat} {cs : List (Crew.Event Nat)}
      (queueing : ∃ k, m = .ask k ∨ m = .resume k ∨ m = .stir k)
      (taken : s.crew.step m = some (d, cs)) : Turn s l { s with crew := d } (ofCrew cs)
  | served (k n : Nat) (now : String) {x y : Session} {acts : List Session.Act}
      {fs : List Session.Event} (busy : s.crew.workers[k]? = some (.busy n))
      (here : s.sessions[n]? = some x)
      (taken : x.step (.turn now s.tally.value) = some (y, fs)) :
      Turn s (.serve k now)
        { s with
          sessions := s.sessions.set n y
          tally := (Session.counting fs).foldl count s.tally }
        (ofActs n acts ++ ofNotes n fs)
  | retired (k n : Nat) {x : Session} {d : Crew Nat}
      (busy : s.crew.workers[k]? = some (.busy n)) (here : s.sessions[n]? = some x)
      (past : x.phase = .over)
      (taken : s.crew.step (.finish k .returned) = some (d, [.finished k n .returned])) :
      Turn s (.retire k) { s with crew := d } (ofCrew [.finished k n .returned])
  | closing {d : Crew Nat} {cs : List (Crew.Event Nat)} (receiving : s.stage = .receiving)
      (past : s.reception.phase = .over) (taken : s.crew.step (.shutdown 0) = some (d, cs)) :
      Turn s .proceed { s with stage := .closing, crew := d } (.event .shuttingDown :: ofCrew cs)
  | advanced {d : Crew Nat} {cs : List (Crew.Event Nat)} (closing : s.stage = .closing)
      (taken : s.crew.step .advance = some (d, cs)) :
      Turn s .proceed ((Crew.released cs).foldl discard { s with crew := d }) (ofCrew cs)
  | ended (closing : s.stage = .closing) (terminated : s.crew.life = .terminated) :
      Turn s .proceed { s with stage := .ended } [.event (.ended s.tally.value)]

/-! ## Every step is a turn -/

/-- What is recorded of a step that happens to no connection in particular. -/
theorem recorded_eq {es : List Entry} (apart : s.touches l = none)
    (taken : recorded s l = some (t, es)) : ∃ fs, s.step l = some (t, fs) ∧ es = fs.map .event := by
  simp only [recorded, notes, apart, List.append_nil, Option.map_eq_some_iff, Prod.mk.injEq]
    at taken
  obtain ⟨⟨u, fs⟩, took, rfl, rfl⟩ := taken
  exact ⟨fs, took, rfl⟩

theorem receptionStep_eq_some {m : Reception.Label Nat} {fs : List Event}
    (taken : s.receptionStep m = some (t, fs)) :
    ∃ r rs, s.reception.step m = some (r, rs) ∧ t = rs.foldl heed { s with reception := r } ∧
      fs.map Entry.event = ofReception rs := by
  simp only [receptionStep, Option.map_eq_some_iff, Prod.mk.injEq] at taken
  obtain ⟨⟨r, rs⟩, took, rfl, rfl⟩ := taken
  exact ⟨r, rs, took, rfl, List.map_map⟩

theorem crewStep_eq_some {m : Crew.Label Nat} {fs : List Event}
    (taken : s.crewStep m = some (t, fs)) :
    ∃ d cs, s.crew.step m = some (d, cs) ∧
      t = (Crew.released cs).foldl discard { s with crew := d } ∧
      fs.map Entry.event = ofCrew cs := by
  simp only [crewStep, Option.map_eq_some_iff, Prod.mk.injEq] at taken
  obtain ⟨⟨d, cs⟩, took, rfl, rfl⟩ := taken
  exact ⟨d, cs, took, foldl_release _ cs, List.map_map⟩

/-- The steps of the reception but for those that make a connection or hand one over. -/
theorem turn_of_receptionStep {m : Reception.Label Nat} {fs : List Event}
    (nobody : m.arrivals = []) (keeps : ∀ taken, m ≠ .hand taken) (look : m = .look → l = .look)
    (taken : s.receptionStep m = some (t, fs)) : Turn s l t (fs.map .event) := by
  obtain ⟨r, rs, took, rfl, record⟩ := receptionStep_eq_some taken
  rw [record]
  cases Reception.turn_of_step took with
  | turnedAway c =>
      obtain rfl := look rfl
      exact .turnedAway c took
  | taken c =>
      obtain rfl := look rfl
      exact .numbered c _ took
  | connected | woke => cases nobody
  | handed | refused => exact absurd rfl (keeps _)
  | _ => exact .received took nobody rfl

/-- What a worker does at the queue releases nothing. -/
theorem turn_of_queueing {m : Crew.Label Nat} {fs : List Event}
    (queueing : ∃ k, m = .ask k ∨ m = .resume k ∨ m = .stir k)
    (taken : s.crewStep m = some (t, fs)) : Turn s l t (fs.map .event) := by
  obtain ⟨d, cs, took, rfl, record⟩ := crewStep_eq_some taken
  have nothing : Crew.released cs = [] := by
    cases Crew.turn_of_step took with
    | drained => obtain ⟨k, ask | resume | stir⟩ := queueing <;> contradiction
    | _ => rfl
  rw [record, nothing]
  exact .queued queueing took

/-- A connection that the crew takes over or refuses. -/
theorem turn_of_hand {pick : Nat} {fs : List Event} (taken : s.step (.hand pick) = some (t, fs)) :
    Turn s (.hand pick) t (fs.map .event) := by
  simp only [step] at taken
  split at taken
  · rename_i c id handing
    obtain ⟨⟨u, gs⟩, submitted, taken⟩ := Option.bind_eq_some_iff.mp taken
    obtain ⟨⟨v, hs⟩, answered, ends⟩ := Option.bind_eq_some_iff.mp taken
    cases ends
    simp only [crewStep, Option.map_eq_some_iff, Prod.mk.injEq] at submitted
    obtain ⟨⟨d, cs⟩, submitted, rfl, rfl⟩ := submitted
    rw [List.map_append]
    -- What is said of the connection is said by what the crew answers.
    rcases Crew.submit_cases submitted with ⟨-, same, -⟩ | ⟨-, same, -⟩
    · subst same
      obtain ⟨r, rs, took, rfl, record⟩ := receptionStep_eq_some answered
      simp only [List.map_cons, List.map_nil, beq_self_eq_true] at took
      rw [record]
      cases Reception.turn_of_step took with
      | handed c' id' handing' =>
          cases handing.symm.trans handing'
          exact .handed pick c id submitted took
    · subst same
      obtain ⟨r, rs, took, rfl, record⟩ := receptionStep_eq_some answered
      have no : ([Event.crew (.queue (.refused c))] == [.crew (.queue (.accepted c))]) = false := by
        simp
      simp only [List.map_cons, List.map_nil, no] at took
      rw [record]
      cases Reception.turn_of_step took with
      | refused c' id' handing' =>
          cases handing.symm.trans handing'
          exact .refused pick c id submitted took
  · cases taken

/-- The worker that a step of a session is taken by is busy with it. -/
theorem servedBy_eq_some {k n : Nat} (served : s.servedBy k = some n) :
    s.crew.workers[k]? = some (.busy n) := by
  simp only [servedBy] at served
  split at served
  · rename_i busy
    cases served
    exact busy
  · cases served

/-- Only counting a client and counting it out changes the tally. -/
theorem foldl_count (acts : List Session.Act) (tally : Tally) :
    acts.foldl count tally = (Session.counting (acts.map .act)).foldl count tally := by
  induction acts generalizing tally with
  | nil => rfl
  | cons a acts ih =>
      rw [List.foldl_cons, ih, List.map_cons, Session.counting_cons, List.foldl_append]
      cases a <;> rfl

theorem counting_asking (x : Session) (now : String) (active : Nat) :
    Session.counting (x.asking now active) = [] := by
  unfold Session.asking
  split <;> rfl

theorem turn_of_serve {k : Nat} {now : String} {es : List Entry}
    (taken : recorded s (.serve k now) = some (t, es)) : Turn s (.serve k now) t es := by
  simp only [recorded, step, serve, Option.map_eq_some_iff, Prod.mk.injEq] at taken
  obtain ⟨⟨u, gs⟩, took, rfl, rfl⟩ := taken
  obtain ⟨n, served, took⟩ := Option.bind_eq_some_iff.mp took
  obtain ⟨x, here, took⟩ := Option.bind_eq_some_iff.mp took
  obtain ⟨⟨y, acts⟩, turned, took⟩ := Option.bind_eq_some_iff.mp took
  cases took
  have stepped : x.step (.turn now s.tally.value) =
      some (y, x.asking now s.tally.value ++ acts.map .act) := by
    simp [Session.step, turned]
  have note : s.notes (.serve k now) =
      ofNotes n (x.asking now s.tally.value ++ acts.map .act) := by
    simp [notes, touches, served, here, stepped, ofNotes]
  have tally : acts.foldl count s.tally =
      (Session.counting (x.asking now s.tally.value ++ acts.map .act)).foldl count s.tally := by
    rw [Session.counting_append, counting_asking, List.nil_append, foldl_count]
  rw [note, List.map_map, tally]
  exact .served k n now (servedBy_eq_some served) here stepped

theorem turn_of_retire {k : Nat} {fs : List Event} (taken : s.step (.retire k) = some (t, fs)) :
    Turn s (.retire k) t (fs.map .event) := by
  simp only [step] at taken
  split at taken
  · rename_i x served
    obtain ⟨n, served, here⟩ := Option.bind_eq_some_iff.mp served
    have busy := servedBy_eq_some served
    split at taken
    · rename_i past
      obtain ⟨d, cs, took, rfl, record⟩ := crewStep_eq_some taken
      rw [record]
      generalize finishing : Crew.Label.finish k .returned = m at took
      cases Crew.turn_of_step took with
      | finished k' n' outcome busy' =>
          cases finishing
          cases busy.symm.trans busy'
          exact .retired k n busy here past took
      | slept _ comes | handed _ _ comes | dismissed _ comes => cases comes <;> cases finishing
      | _ => cases finishing
    · cases taken
  · cases taken

theorem turn_of_proceed {fs : List Event} (taken : s.proceed = some (t, fs)) :
    Turn s .proceed t (fs.map .event) := by
  unfold proceed at taken
  split at taken
  · rename_i receiving
    split at taken
    · rename_i past
      simp only [Option.map_eq_some_iff, Prod.mk.injEq] at taken
      obtain ⟨⟨u, gs⟩, took, rfl, rfl⟩ := taken
      obtain ⟨d, cs, shut, rfl, record⟩ := crewStep_eq_some took
      have nothing : Crew.released cs = [] := by
        generalize shutting : Crew.Label.shutdown 0 = m at shut
        cases Crew.turn_of_step shut with
        | drained => cases shutting
        | _ => rfl
      rw [List.map_cons, record, nothing]
      exact .closing receiving past shut
    · cases taken
  · rename_i closing
    split at taken
    · rename_i terminated
      cases taken
      exact .ended closing terminated
    · obtain ⟨d, cs, took, rfl, record⟩ := crewStep_eq_some taken
      rw [record]
      exact .advanced closing took
  · cases taken

/-- Something that happens to a connection, if there is one. -/
theorem turn_of_heard {n : Nat} {m : Session.Label} {act : Session → Session}
    (outside : ∀ now active, m ≠ .turn now active) (undiscarded : m ≠ .discard)
    (acts : ∀ x, ∃ fs, x.step m = some (act x, fs)) (touched : s.touches l = some (n, m))
    (stepped : s.step l = some (s.onSession n act, []))
    (taken : recorded s l = some (t, es)) : Turn s l t es := by
  simp only [recorded, stepped, Option.map_some, Option.some.injEq, Prod.mk.injEq, List.map_nil,
    List.nil_append, notes, touched] at taken
  obtain ⟨rfl, rfl⟩ := taken
  cases here : s.sessions[n]? with
  | none =>
      have same : s.onSession n act = s := by
        rw [onSession, List.modify_eq_self (List.getElem?_eq_none_iff.mp here)]
      simpa [same] using Turn.unheard (s := s) (l := l)
  | some x =>
      obtain ⟨fs, took⟩ := acts x
      have moved : s.onSession n act = { s with sessions := s.sessions.set n (act x) } := by
        rw [onSession, List.modify_eq_set_getElem?, here]
        rfl
      simp only [Option.bind_some, took, moved]
      exact .heard n here outside undiscarded took

/-- **Every step is one of the turns.** -/
theorem turn_of_step (taken : recorded s l = some (t, es)) : Turn s l t es := by
  cases l with
  | connect peer =>
      obtain ⟨fs, took, rfl⟩ := recorded_eq rfl taken
      obtain ⟨r, rs, connected, rfl, record⟩ := receptionStep_eq_some took
      rw [record]
      cases Reception.turn_of_step connected
      exact .joined (Session.new peer) .refl rfl rfl connected
  | receive n bytes =>
      exact turn_of_heard (by simp) (by simp) (fun x => ⟨_, rfl⟩) rfl rfl taken
  | finish n => exact turn_of_heard (by simp) (by simp) (fun x => ⟨_, rfl⟩) rfl rfl taken
  | sever n f => exact turn_of_heard (by simp) (by simp) (fun x => ⟨_, rfl⟩) rfl rfl taken
  | silence n f => exact turn_of_heard (by simp) (by simp) (fun x => ⟨_, rfl⟩) rfl rfl taken
  | request h =>
      obtain ⟨fs, took, rfl⟩ := recorded_eq rfl taken
      exact turn_of_receptionStep (m := .request h) rfl (by simp) (by simp) took
  | wake result =>
      obtain ⟨fs, took, rfl⟩ := recorded_eq rfl taken
      cases result with
      | error f => exact turn_of_receptionStep (m := .wake (.error f)) rfl (by simp) (by simp) took
      | ok peer =>
          obtain ⟨r, rs, connected, rfl, record⟩ := receptionStep_eq_some took
          rw [record]
          cases Reception.turn_of_step connected
          exact .joined ((Session.new peer).finish) (.single (l := .finish) rfl) rfl rfl connected
  | look =>
      obtain ⟨fs, took, rfl⟩ := recorded_eq rfl taken
      exact turn_of_receptionStep (m := .look) rfl (by simp) (by simp) took
  | accept =>
      obtain ⟨fs, took, rfl⟩ := recorded_eq rfl taken
      exact turn_of_receptionStep (m := .accept) rfl (by simp) (by simp) took
  | fail f =>
      obtain ⟨fs, took, rfl⟩ := recorded_eq rfl taken
      exact turn_of_receptionStep (m := .fail f) rfl (by simp) (by simp) took
  | hand pick =>
      obtain ⟨fs, took, rfl⟩ := recorded_eq rfl taken
      exact turn_of_hand took
  | ask k =>
      obtain ⟨fs, took, rfl⟩ := recorded_eq rfl taken
      exact turn_of_queueing ⟨k, .inl rfl⟩ took
  | resume k =>
      obtain ⟨fs, took, rfl⟩ := recorded_eq rfl taken
      exact turn_of_queueing ⟨k, .inr (.inl rfl)⟩ took
  | stir k =>
      obtain ⟨fs, took, rfl⟩ := recorded_eq rfl taken
      exact turn_of_queueing ⟨k, .inr (.inr rfl)⟩ took
  | serve k now => exact turn_of_serve taken
  | retire k =>
      obtain ⟨fs, took, rfl⟩ := recorded_eq rfl taken
      exact turn_of_retire took
  | proceed =>
      obtain ⟨fs, took, rfl⟩ := recorded_eq rfl taken
      exact turn_of_proceed took

/-! ## Histories -/

/-- A crew of `n` workers that has been founded and has never been given a task; `cs` is its
history.  The number of workers is a number of 64 bits, as the number of clients is. -/
structure Opening (n : Nat) (crew : Crew Nat) (cs : List (Crew.Event Nat)) : Prop where
  room : n < Tally.bound
  history : Crew.History n crew cs
  running : crew.life = .running
  unused : Crew.accepted cs = []

/-- A crew of any number of workers can be founded. -/
theorem Opening.founded (positive : 0 < n) (room : n < Tally.bound) :
    Opening n (Crew.opened n) ((List.range n).map .spawned ++ [.handedOver n]) where
  room := room
  history := Crew.history_opened positive
  running := rfl
  unused := Crew.accepted_opened n

/-- A service with `n` workers can come to be `s`, and `es` is the record of it. -/
def History (n : Nat) (s : Service) (es : List Entry) : Prop :=
  ∃ crew cs firstId, Opening n crew cs ∧ Machine.Reaches recorded (new crew firstId) s es

namespace History

/-- What holds of a service that is about to start and is kept by every turn holds always. -/
theorem induct {motive : (s : Service) → (es : List Entry) → History n s es → Prop}
    (start : ∀ {crew cs firstId} (_ : Opening n crew cs) history,
      motive (new crew firstId) [] history)
    (next : ∀ {s t : Service} {es fs : List Entry} {l : Label} (before : History n s es),
      Turn s l t fs → ∀ history : History n t (es ++ fs),
      motive s es before → motive t (es ++ fs) history)
    {s : Service} {es : List Entry} (history : History n s es) : motive s es history := by
  obtain ⟨crew, cs, firstId, opening, reached⟩ := history
  induction reached with
  | refl => exact start opening _
  | tail reached taken ih =>
      exact next ⟨crew, cs, firstId, opening, reached⟩ (turn_of_step taken) _ ih

theorem trans {fs : List Entry} (history : History n s es)
    (reached : Machine.Reaches recorded s t fs) : History n t (es ++ fs) := by
  obtain ⟨crew, cs, firstId, opening, before⟩ := history
  exact ⟨crew, cs, firstId, opening, before.trans reached⟩

end History

/-! ## The parts of a service -/

/-- A step of a service is a step of its crew or leaves the crew alone. -/
theorem Turn.crew (turn : Turn s l t fs) :
    (t.crew = s.crew ∧ crewEvents fs = []) ∨ ∃ m, s.crew.step m = some (t.crew, crewEvents fs) := by
  cases turn with
  | handed pick c id taken | refused pick c id taken => exact .inr ⟨_, by simpa using taken⟩
  | queued _ taken | retired _ _ _ _ _ taken | advanced _ taken =>
      exact .inr ⟨_, by simpa using taken⟩
  | closing _ _ taken => exact .inr ⟨_, by simpa using taken⟩
  | ended => exact .inl ⟨rfl, rfl⟩
  | _ => exact .inl ⟨rfl, by simp⟩

/-- A step of a service is a step of its reception or leaves the reception alone. -/
theorem Turn.reception (turn : Turn s l t fs) :
    (t.reception = s.reception ∧ receptionEvents fs = []) ∨
      ∃ m, s.reception.step m = some (t.reception, receptionEvents fs) := by
  cases turn with
  | joined _ _ _ _ taken | received taken | numbered _ _ taken | turnedAway _ taken
  | handed _ _ _ _ taken | refused _ _ _ _ taken => exact .inr ⟨_, by simpa using taken⟩
  | advanced => exact .inl ⟨by simp, by simp⟩
  | ended => exact .inl ⟨rfl, rfl⟩
  | _ => exact .inl ⟨rfl, by simp⟩

/-- **The crew runs when the service does.** -/
theorem History.crew (history : History n s es) :
    ∃ crew cs, Opening n crew cs ∧ Machine.Reaches Crew.step crew s.crew (crewEvents es) := by
  obtain ⟨crew, cs, firstId, opening, reached⟩ := history
  refine ⟨crew, cs, opening, ?_⟩
  refine Machine.Reaches.project Service.crew Entry.crew? (fun taken => ?_) reached
  change Machine.Reaches Crew.step _ _ (crewEvents _)
  rcases (turn_of_step taken).crew with ⟨same, silent⟩ | ⟨m, worked⟩
  · rw [same, silent]
    exact .refl
  · exact .single worked

/-- **The reception runs when the service does.** -/
theorem History.reception (history : History n s es) :
    ∃ firstId, Machine.Reaches Reception.step (.new firstId) s.reception (receptionEvents es) := by
  obtain ⟨crew, cs, firstId, opening, reached⟩ := history
  refine ⟨firstId, ?_⟩
  refine Machine.Reaches.project Service.reception Entry.reception? (fun taken => ?_) reached
  change Machine.Reaches Reception.step _ _ (receptionEvents _)
  rcases (turn_of_step taken).reception with ⟨same, silent⟩ | ⟨m, received⟩
  · rw [same, silent]
    exact .refl
  · exact .single received

end LineService.Service
