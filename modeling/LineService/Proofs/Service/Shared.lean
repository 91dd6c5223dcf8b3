import LineService.Proofs.Crew.Admission
import LineService.Proofs.Reception.Offers
import LineService.Proofs.Service.Sessions

/-!
# A service whose crew is not its own

Whoever runs a service shuts its crew down when the reception is over.  Nothing in the reception
relies on that: a crew can be shared, and others who hold it may shut it down at any moment, also
before the reception starts.  `Shared.step` has the steps of the service and those of such others.

Whatever they do, a step of the service is a step of its reception or leaves the reception alone
(`reception_of_step`), so the reception runs, and is watched, in every service that is
(`reaches_reception`).  A connection keeps its number until the reception gives it one
(`number_of_step`), and one that was closed unserved stays closed (`discarded_of_step`).
-/

set_option autoImplicit false

namespace LineService

/-- Only the turns of a session are its own, and they do not change its number. -/
theorem Session.id_of_turn {x y : Session} {now : String} {active : Nat} {fs : List Session.Event}
    (turn : Session.Turn x (.turn now active) y fs) : y.id = x.id := by
  cases turn with
  | aside _ outside => exact absurd rfl (outside now active)
  | _ => rfl

namespace Service

/-! ## The numbers of connections -/

variable {s t : Service} {es : List Entry}

/-- The numbers of all connections, in the order in which these were made. -/
def numbers (s : Service) : List UInt32 := s.sessions.map Session.id

@[simp] theorem numbers_length (s : Service) : s.numbers.length = s.sessions.length :=
  List.length_map _

theorem numbers_onSession (s : Service) (n : Nat) (f : Session → Session)
    (keeps : ∀ x, (f x).id = x.id) : (s.onSession n f).numbers = s.numbers := by
  refine List.ext_getElem? fun i => ?_
  simp only [numbers, onSession, List.getElem?_map, List.getElem?_modify]
  cases s.sessions[i]? with
  | none => rfl
  | some x => by_cases here : n = i <;> simp [here, keeps]

theorem numbers_discards (ns : List Nat) : (ns.foldl discard s).numbers = s.numbers := by
  induction ns generalizing s with
  | nil => rfl
  | cons n ns ih =>
      rw [List.foldl_cons, ih]
      exact numbers_onSession s n _ fun _ => rfl

theorem numbers_of_crewStep {m : Crew.Label Nat} {fs : List Event}
    (taken : s.crewStep m = some (t, fs)) : t.numbers = s.numbers := by
  obtain ⟨d, cs, -, rfl, -⟩ := crewStep_eq_some taken
  exact numbers_discards _

/-- The reception numbers the connection that it has accepted, and no other. -/
theorem numbers_of_receptionStep {m : Reception.Label Nat} {fs : List Event}
    (taken : s.receptionStep m = some (t, fs)) :
    (t.numbers = s.numbers ∧ ∀ c id, .accepted c id ∉ receptionEvents (fs.map .event)) ∨
      ∃ c, s.reception.phase = .judging (.connection c) ∧
        receptionEvents (fs.map .event) = [.accepted c s.reception.nextId] ∧
        t.numbers = s.numbers.set c s.reception.nextId := by
  obtain ⟨r, rs, took, rfl, record⟩ := receptionStep_eq_some taken
  rw [record, receptionEvents_ofReception]
  cases Reception.turn_of_step took with
  | taken c judging =>
      refine .inr ⟨c, judging, rfl, List.ext_getElem? fun i => ?_⟩
      simp only [List.foldl_cons, List.foldl_nil, heed, numbers, onSession, List.getElem?_map,
        List.getElem?_modify, List.getElem?_set]
      by_cases here : c = i
      · subst here
        cases there : s.sessions[c]? with
        | none => simpa using List.getElem?_eq_none_iff.mp there
        | some x => simpa using (List.getElem?_eq_some_iff.mp there).1
      · simp [here]
  | turnedAway c => exact .inl ⟨numbers_discards (s := { s with reception := _ }) [c], by simp⟩
  | refused c => exact .inl ⟨numbers_discards (s := { s with reception := _ }) [c], by simp⟩
  | _ => exact .inl ⟨rfl, by simp⟩

/-! ## The list of connections -/

/-- What a step of the reception returns was waiting before, or arrives with the step. -/
theorem arrivals_of_reception {m : Reception.Label Nat} {r : Reception Nat}
    {rs : List (Reception.Event Nat)} (taken : s.reception.step m = some (r, rs))
    (nobody : m.arrivals = []) : Reception.returned rs ++ r.backlog = s.reception.backlog := by
  rw [Reception.backlog_of_turn (Reception.turn_of_step taken), nobody, List.append_nil]

/-- **Connections are returned in the order in which they are made.**  A step takes those that it
returns off the backlog, and appends to it those that it makes. -/
theorem Turn.arrivals {l : Label} (turn : Turn s l t es) : ∃ made,
    Reception.returned (receptionEvents es) ++ t.reception.backlog = s.reception.backlog ++ made ∧
      List.range t.sessions.length = List.range s.sessions.length ++ made := by
  cases turn with
  | joined x new fresh arrives taken =>
      refine ⟨[s.sessions.length], ?_, ?_⟩
      · rw [receptionEvents_ofReception, ← arrives]
        exact Reception.backlog_of_turn (Reception.turn_of_step taken)
      · rw [List.length_append, List.length_singleton, List.range_succ]
  | received taken nobody =>
      exact ⟨[], by simpa using arrivals_of_reception taken nobody, by simp⟩
  | numbered _ _ taken | turnedAway _ taken | handed _ _ _ _ taken | refused _ _ _ _ taken =>
      exact ⟨[], by simpa using arrivals_of_reception taken rfl, by simp⟩
  | heard | queued | served | retired | closing | advanced =>
      exact ⟨[], by simp [Reception.returned], by simp⟩
  | unheard | ended => exact ⟨[], (List.append_nil _).symm, (List.append_nil _).symm⟩

/-! ## Others at the crew -/

namespace Shared

/-- Who takes which step. -/
inductive Label where
  /-- The service, its clients and those who ask it to stop. -/
  | own (l : Service.Label)
  /-- Somebody else calls for the crew to be shut down. -/
  | shutdown (who : Nat)
  /-- Whoever is shutting the crew down takes the next step. -/
  | advance

/-- A step of the reception itself. -/
def Label.isReception : Label → Bool
  | .own .look | .own .accept | .own (.fail _) | .own (.hand _) => true
  | _ => false

/-- The steps of a service and of others who shut its crew down. -/
def step (s : Service) : Label → Option (Service × List Entry)
  | .own l => recorded s l
  | .shutdown who => (s.crewStep (.shutdown who)).map fun r => (r.1, r.2.map .event)
  | .advance => (s.crewStep .advance).map fun r => (r.1, r.2.map .event)

/-- What there is to see before a step is taken. -/
def glance (s : Service) : Label → List (Reception.Glance Nat)
  | .own .look => s.reception.glance .look
  | _ => []

variable {l : Label}

/-- What a step needs, leaves and records. -/
inductive Turn (s : Service) : Label → Service → List Entry → Prop where
  | own {l : Service.Label} {t : Service} {es : List Entry} (turn : Service.Turn s l t es) :
      Turn s (.own l) t es
  /-- Somebody else at the crew. -/
  | elsewhere {l : Label} {m : Crew.Label Nat} {d : Crew Nat} {cs : List (Crew.Event Nat)}
      (other : ∀ task pick, m ≠ .submit task pick) (taken : s.crew.step m = some (d, cs)) :
      Turn s l ((Crew.released cs).foldl discard { s with crew := d }) (ofCrew cs)

/-- **Every step is one of the turns.** -/
theorem turn_of_step (taken : step s l = some (t, es)) : Turn s l t es := by
  have others {m : Crew.Label Nat} (other : ∀ task pick, m ≠ .submit task pick)
      (took : (s.crewStep m).map (fun r => (r.1, r.2.map .event)) = some (t, es)) :
      Turn s l t es := by
    simp only [Option.map_eq_some_iff, Prod.mk.injEq] at took
    obtain ⟨⟨u, fs⟩, took, rfl, rfl⟩ := took
    obtain ⟨d, cs, worked, rfl, record⟩ := crewStep_eq_some took
    rw [record]
    exact .elsewhere other worked
  cases l with
  | own l => exact .own (Service.turn_of_step taken)
  | shutdown who => exact others (by simp) taken
  | advance => exact others (by simp) taken

/-! ## The reception -/

/-- What a step of the service is to the reception. -/
def atReception? (s : Service) : Label → Option (Reception.Label Nat)
  | .own (.connect _) => some (.connect s.sessions.length)
  | .own (.request h) => some (.request h)
  | .own (.wake (.error f)) => some (.wake (.error f))
  | .own (.wake (.ok _)) => some (.wake (.ok s.sessions.length))
  | .own .look => some .look
  | .own .accept => some .accept
  | .own (.fail f) => some (.fail f)
  | .own (.hand _) => some (.hand !s.crew.queue.closed)
  | _ => none

/-- What does not concern the reception, and numbers no connection. -/
structure Prelude (s u : Service) (before : List Entry) : Prop where
  reception : u.reception = s.reception
  numbers : s.numbers <+: u.numbers
  silent : receptionEvents before = []

/-- What a step does at the reception it does last. -/
inductive Passage (s : Service) (l : Label) (t : Service) : List Entry → Prop where
  | apart {es : List Entry} (prelude : Prelude s t es) (nothing : atReception? s l = none) :
      Passage s l t es
  | spoken {u : Service} {before : List Entry} {m : Reception.Label Nat} {fs : List Event}
      (prelude : Prelude s u before) (spoken : atReception? s l = some m)
      (taken : u.receptionStep m = some (t, fs)) : Passage s l t (before ++ fs.map .event)

/-- What is done at the crew. -/
theorem Prelude.of_crewStep {m : Crew.Label Nat} {fs : List Event}
    (taken : s.crewStep m = some (t, fs)) : Prelude s t (fs.map .event) := by
  have same := numbers_of_crewStep taken
  obtain ⟨d, cs, -, rfl, record⟩ := crewStep_eq_some taken
  exact ⟨by simp, same ▸ List.prefix_rfl, by rw [record, receptionEvents_ofCrew]⟩

theorem receptionEvents_notes (s : Service) (l : Service.Label) :
    receptionEvents (s.notes l) = [] := by
  unfold notes
  split
  · rfl
  · split
    · rfl
    · exact receptionEvents_ofNotes _ _

/-- What happens to a connection. -/
theorem Prelude.of_onSession {l : Service.Label} {n : Nat} {f : Session → Session}
    (stepped : s.step l = some (s.onSession n f, [])) (keeps : ∀ x, (f x).id = x.id)
    (taken : recorded s l = some (t, es)) : Prelude s t es := by
  simp only [recorded, stepped, Option.map_some, Option.some.injEq, Prod.mk.injEq] at taken
  obtain ⟨rfl, rfl⟩ := taken
  exact ⟨rfl, numbers_onSession s n f keeps ▸ List.prefix_rfl, receptionEvents_notes s l⟩

theorem Prelude.of_serve {k : Nat} {now : String}
    (taken : recorded s (.serve k now) = some (t, es)) : Prelude s t es := by
  simp only [recorded, Service.step, serve, Option.map_eq_some_iff, Prod.mk.injEq] at taken
  obtain ⟨⟨u, gs⟩, took, rfl, rfl⟩ := taken
  obtain ⟨n, served, took⟩ := Option.bind_eq_some_iff.mp took
  obtain ⟨x, here, took⟩ := Option.bind_eq_some_iff.mp took
  obtain ⟨⟨y, acts⟩, turned, took⟩ := Option.bind_eq_some_iff.mp took
  cases took
  have stepped : x.step (.turn now s.tally.value) =
      some (y, x.asking now s.tally.value ++ acts.map .act) := by
    simp [Session.step, turned]
  have number := Session.id_of_turn (Session.turn_of_step stepped)
  refine ⟨rfl, ?_, ?_⟩
  · have same : (s.sessions.set n y).map Session.id = s.sessions.map Session.id := by
      obtain ⟨less, rfl⟩ := List.getElem?_eq_some_iff.mp here
      refine List.ext_getElem? fun i => ?_
      rw [List.getElem?_map, List.getElem?_map, List.getElem?_set]
      by_cases alike : n = i
      · simp [← alike, less, number]
      · simp [alike]
    exact ⟨[], (List.append_nil _).trans same.symm⟩
  · rw [receptionEvents_append, receptionEvents_notes, List.append_nil, List.map_map]
    exact receptionEvents_ofActs n acts

theorem Prelude.of_retire {k : Nat} {fs : List Event} (taken : s.step (.retire k) = some (t, fs)) :
    Prelude s t (fs.map .event) := by
  simp only [Service.step] at taken
  split at taken
  · split at taken
    · exact .of_crewStep taken
    · cases taken
  · cases taken

theorem Prelude.of_proceed {fs : List Event} (taken : s.proceed = some (t, fs)) :
    Prelude s t (fs.map .event) := by
  unfold proceed at taken
  split at taken
  · split at taken
    · obtain ⟨⟨u, gs⟩, took, ends⟩ := Option.map_eq_some_iff.mp taken
      cases ends
      obtain ⟨reception, numbers, silent⟩ := Prelude.of_crewStep took
      exact ⟨reception, numbers, silent⟩
    · cases taken
  · split at taken
    · cases taken
      exact ⟨rfl, List.prefix_rfl, rfl⟩
    · exact .of_crewStep taken
  · cases taken

/-- A connection is offered to the crew before the reception hears the answer. -/
theorem passage_of_hand {pick : Nat} {fs : List Event}
    (taken : s.step (.hand pick) = some (t, fs)) :
    Passage s (.own (.hand pick)) t (fs.map .event) := by
  simp only [Service.step] at taken
  split at taken
  · rename_i c id handing
    obtain ⟨⟨u, gs⟩, submitted, taken⟩ := Option.bind_eq_some_iff.mp taken
    obtain ⟨⟨v, hs⟩, answered, ends⟩ := Option.bind_eq_some_iff.mp taken
    cases ends
    have crew := Prelude.of_crewStep submitted
    simp only [crewStep, Option.map_eq_some_iff, Prod.mk.injEq] at submitted
    obtain ⟨⟨d, cs⟩, submitted, rfl, rfl⟩ := submitted
    rw [List.map_append]
    refine .spoken crew ?_ answered
    rcases Crew.submit_cases submitted with ⟨opened, same, -⟩ | ⟨shut, same, -⟩
    · simp [atReception?, opened, show cs = _ from same]
    · simp [atReception?, shut, show cs = _ from same]
  · cases taken

/-- **What a step does at the reception it does last**, and nothing else in it numbers a
connection. -/
theorem passage_of_step (taken : step s l = some (t, es)) : Passage s l t es := by
  have still : Prelude s s [] := ⟨rfl, List.prefix_rfl, rfl⟩
  cases l with
  | shutdown who =>
      obtain ⟨⟨u, fs⟩, took, ends⟩ := Option.map_eq_some_iff.mp taken
      cases ends
      exact .apart (.of_crewStep took) rfl
  | advance =>
      obtain ⟨⟨u, fs⟩, took, ends⟩ := Option.map_eq_some_iff.mp taken
      cases ends
      exact .apart (.of_crewStep took) rfl
  | own l =>
      cases l with
      | receive n bytes => exact .apart (.of_onSession rfl (by intro _; rfl) taken) rfl
      | finish n => exact .apart (.of_onSession rfl (by intro _; rfl) taken) rfl
      | sever n f => exact .apart (.of_onSession rfl (by intro _; rfl) taken) rfl
      | silence n f => exact .apart (.of_onSession rfl (by intro _; rfl) taken) rfl
      | serve k now => exact .apart (.of_serve taken) rfl
      | connect peer =>
          obtain ⟨fs, took, rfl⟩ := recorded_eq rfl taken
          have made : Prelude s { s with sessions := s.sessions ++ [Session.new peer] } [] :=
            ⟨rfl, by simp [numbers], rfl⟩
          exact .spoken made rfl took
      | wake result =>
          obtain ⟨fs, took, rfl⟩ := recorded_eq rfl taken
          cases result with
          | error f => exact .spoken still rfl took
          | ok peer =>
              have made : Prelude s
                  { s with sessions := s.sessions ++ [(Session.new peer).finish] } [] :=
                ⟨rfl, by simp [numbers], rfl⟩
              exact .spoken made rfl took
      | request h =>
          obtain ⟨fs, took, rfl⟩ := recorded_eq rfl taken
          exact .spoken still rfl took
      | look =>
          obtain ⟨fs, took, rfl⟩ := recorded_eq rfl taken
          exact .spoken still rfl took
      | accept =>
          obtain ⟨fs, took, rfl⟩ := recorded_eq rfl taken
          exact .spoken still rfl took
      | fail f =>
          obtain ⟨fs, took, rfl⟩ := recorded_eq rfl taken
          exact .spoken still rfl took
      | hand pick =>
          obtain ⟨fs, took, rfl⟩ := recorded_eq rfl taken
          exact passage_of_hand took
      | ask k =>
          obtain ⟨fs, took, rfl⟩ := recorded_eq rfl taken
          exact .apart (.of_crewStep took) rfl
      | resume k =>
          obtain ⟨fs, took, rfl⟩ := recorded_eq rfl taken
          exact .apart (.of_crewStep took) rfl
      | stir k =>
          obtain ⟨fs, took, rfl⟩ := recorded_eq rfl taken
          exact .apart (.of_crewStep took) rfl
      | retire k =>
          obtain ⟨fs, took, rfl⟩ := recorded_eq rfl taken
          exact .apart (.of_retire took) rfl
      | proceed =>
          obtain ⟨fs, took, rfl⟩ := recorded_eq rfl taken
          exact .apart (.of_proceed took) rfl

theorem heeds_reception (rs : List (Reception.Event Nat)) (s : Service) :
    (rs.foldl heed s).reception = s.reception := by
  induction rs generalizing s with
  | nil => rfl
  | cons e rs ih =>
      rw [List.foldl_cons, ih]
      cases e <;> rfl

/-- **A step of the service is a step of its reception or leaves the reception alone.** -/
theorem reception_of_step (taken : step s l = some (t, es)) :
    (atReception? s l = none ∧ t.reception = s.reception ∧ receptionEvents es = []) ∨
      ∃ m, atReception? s l = some m ∧
        s.reception.step m = some (t.reception, receptionEvents es) := by
  cases passage_of_step taken with
  | apart prelude nothing => exact .inl ⟨nothing, prelude.reception, prelude.silent⟩
  | @spoken u before m fs prelude spoken took =>
      obtain ⟨r, rs, answered, rfl, record⟩ := receptionStep_eq_some took
      refine .inr ⟨m, spoken, ?_⟩
      rw [heeds_reception, receptionEvents_append, prelude.silent, record,
        receptionEvents_ofReception, ← prelude.reception]
      exact answered

/-- The reception is watched in the service. -/
theorem glance_eq (s : Service) (l : Label) :
    glance s l = (atReception? s l).elim [] s.reception.glance := by
  cases l with
  | own l =>
      cases l with
      | wake result => cases result <;> rfl
      | _ => rfl
  | _ => rfl

theorem isReception_eq (s : Service) (l : Label) :
    l.isReception = (atReception? s l).elim false Reception.Label.isOwn := by
  cases l with
  | own l =>
      cases l with
      | wake result => cases result <;> rfl
      | _ => rfl
  | _ => rfl

variable {ws : List (Reception.Glance Nat ⊕ Entry)}

/-- **The reception runs, and is watched, when the service is.** -/
theorem reaches_reception (reached : Machine.Reaches (Machine.watched step glance) s t ws) :
    Machine.Reaches (Machine.watched Reception.step Reception.glance) s.reception t.reception
      (ws.filterMap (Machine.noted Entry.reception?)) := by
  refine reached.project_watched Service.reception fun {s t l es} taken => ?_
  rw [glance_eq]
  rcases reception_of_step taken with ⟨nothing, same, silent⟩ | ⟨m, spoken, took⟩
  · exact .inl ⟨same, by rw [nothing]; rfl, silent⟩
  · exact .inr ⟨m, took, by rw [spoken]; rfl⟩

/-! ## Numbers and closed connections -/

/-- A step leaves the number of a connection alone, or it is the one by which the reception gives
it one. -/
theorem number_of_step (taken : step s l = some (t, es)) {i : Nat} {id : UInt32}
    (here : s.numbers[i]? = some id) :
    (t.numbers[i]? = some id ∧ ∀ n, .accepted i n ∉ receptionEvents es) ∨
      s.reception.phase = .judging (.connection i) ∧ t.numbers[i]? = some s.reception.nextId := by
  have kept {u : Service} {before : List Entry} (prelude : Prelude s u before) :
      u.numbers[i]? = some id := by
    obtain ⟨new, grown⟩ := prelude.numbers
    rw [← grown, List.getElem?_append_left (List.getElem?_eq_some_iff.mp here).1, here]
  cases passage_of_step taken with
  | apart prelude => exact .inl ⟨kept prelude, by simp [prelude.silent]⟩
  | @spoken u before m fs prelude spoken took =>
      rw [receptionEvents_append, prelude.silent, List.nil_append]
      rcases numbers_of_receptionStep took with ⟨alike, same⟩ | ⟨c, judging, accepted, given⟩
      · exact .inl ⟨alike ▸ kept prelude, same i⟩
      · rw [prelude.reception] at judging given
        by_cases this : c = i
        · subst this
          refine .inr ⟨judging, ?_⟩
          rw [given, List.getElem?_set_self (List.getElem?_eq_some_iff.mp (kept prelude)).1]
        · refine .inl ⟨by rw [given, List.getElem?_set_ne this, kept prelude], fun n member => ?_⟩
          rw [accepted, List.mem_singleton] at member
          cases member
          exact this rfl

/-- A connection that was closed unserved stays closed. -/
theorem discarded_of_step (taken : step s l = some (t, es)) {i : Nat} {x : Session}
    (here : s.sessions[i]? = some x) (closed : x.phase = .discarded) :
    ∃ y, t.sessions[i]? = some y ∧ y.phase = .discarded := by
  have there : ∃ y, t.sessions[i]? = some y := by
    have number : s.numbers[i]? = some x.id := by rw [numbers, List.getElem?_map, here]; rfl
    have still : ∃ id, t.numbers[i]? = some id :=
      (number_of_step taken number).elim (fun kept => ⟨_, kept.1⟩) fun given => ⟨_, given.2⟩
    obtain ⟨id, still⟩ := still
    rw [numbers, List.getElem?_map, Option.map_eq_some_iff] at still
    obtain ⟨y, there, -⟩ := still
    exact ⟨y, there⟩
  obtain ⟨y, there⟩ := there
  refine ⟨y, there, ?_⟩
  cases turn_of_step taken with
  | own turn =>
      rcases turn.change there with ⟨rfl, -⟩ | ⟨w, before, change⟩
      · exact absurd (List.getElem?_eq_some_iff.mp here).1 (Nat.lt_irrefl _)
      · cases here.symm.trans before
        cases change with
        | kept _ phase => exact phase.trans closed
        | served _ taken => exact absurd closed (Session.serving_of_turn taken).2
        | discarded now => rw [now]
  | elsewhere other worked =>
      rw [sessions_discards, here, Option.map_some, Option.some.injEq] at there
      rw [← there]
      split
      · rfl
      · exact closed

end Shared

end Service

end LineService
