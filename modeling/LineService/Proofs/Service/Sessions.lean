import LineService.Proofs.Service.Roll

/-!
# The sessions of a service

`Change` says what a step of a service can do to one of its connections: leave the session's phase
alone, take the session's next turn, or close the connection unserved (`Turn.change`).

Where a connection is and the phase of its session go together (`History.lodged`).  So a connection
that is closed unserved had not been served, and each session of a service has a course of its own,
made of what is recorded of its connection (`History.course`): what is known of courses is known of
every session in every service.
-/

set_option autoImplicit false

namespace LineService

namespace Session

variable {x y : Session} {m : Label} {fs : List Event}

theorem peer_of_turn (turn : Turn x m y fs) : y.peer = x.peer := by
  cases turn with
  | aside _ _ peer => exact peer
  | _ => rfl

theorem peer_of_reaches (reached : Machine.Reaches step x y fs) : y.peer = x.peer := by
  induction reached with
  | refl => rfl
  | tail _ taken ih => exact (peer_of_turn (turn_of_step taken)).trans ih

/-- Only its own turns, and being closed unserved, change the phase of a session. -/
theorem phase_of_turn (turn : Turn x m y fs) (outside : ∀ now active, m ≠ .turn now active)
    (undiscarded : m ≠ .discard) : y.phase = x.phase := by
  cases turn with
  | received => rfl
  | aside _ _ _ phase => exact phase
  | discarded => exact absurd rfl undiscarded
  | _ => exact absurd rfl (outside _ _)

/-- A session that takes a turn is being served. -/
theorem serving_of_turn {now : String} {active : Nat}
    (taken : x.step (.turn now active) = some (y, fs)) :
    x.phase ≠ .over ∧ x.phase ≠ .discarded := by
  constructor <;> intro ended <;> simp [step, turn, ended] at taken

end Session

namespace Service

variable {s t : Service} {l : Label} {n : Nat} {es fs : List Entry} {i : Nat} {x y : Session}

/-! ## What a step does to one connection -/

/-- What a step that is recorded as `fs` does to connection `i`. -/
inductive Change (s : Service) (fs : List Entry) (i : Nat) (x y : Session) : Prop where
  | kept (reached : Machine.Reaches Session.step x y (courseOf i fs)) (phase : y.phase = x.phase)
      (spared : i ∉ unserved fs)
  | served {k : Nat} {now : String} (busy : s.crew.workers[k]? = some (.busy i))
      (taken : x.step (.turn now s.tally.value) = some (y, courseOf i fs))
      (spared : i ∉ unserved fs)
  | discarded (closed : y = { x with phase := .discarded }) (silent : courseOf i fs = [])
      (unserved : i ∈ unserved fs)

/-- A step that does nothing to a connection. -/
theorem Change.still (silent : courseOf i fs = []) (spared : i ∉ unserved fs) :
    Change s fs i x x :=
  .kept (silent ▸ .refl) rfl spared

/-- Closing connections unserved. -/
theorem Change.of_discards {u : Service} (ns : List Nat) (same : u.sessions = s.sessions)
    (after : (ns.foldl discard u).sessions[i]? = some y) (silent : courseOf i fs = [])
    (unserved : i ∈ unserved fs ↔ i ∈ ns) : ∃ x, s.sessions[i]? = some x ∧ Change s fs i x y := by
  rw [sessions_discards, same, Option.map_eq_some_iff] at after
  obtain ⟨x, here, rfl⟩ := after
  refine ⟨x, here, ?_⟩
  by_cases closed : i ∈ ns
  · rw [if_pos closed]
    exact .discarded rfl silent (unserved.mpr closed)
  · rw [if_neg closed]
    exact .still silent (mt unserved.mp closed)

/-- Replacing the session of one connection. -/
theorem set_cases {m : Nat} {z w : Session} (there : s.sessions[m]? = some w)
    (after : (s.sessions.set m z)[i]? = some y) :
    (i = m ∧ y = z) ∨ (i ≠ m ∧ s.sessions[i]? = some y) := by
  by_cases same : m = i
  · subst same
    have less := (List.getElem?_eq_some_iff.mp there).1
    rw [List.getElem?_set_self less] at after
    exact .inl ⟨rfl, (Option.some.inj after).symm⟩
  · rw [List.getElem?_set_ne same] at after
    exact .inr ⟨Ne.symm same, after⟩

/-- **A step makes a connection or changes one that there is.** -/
theorem Turn.change (turn : Turn s l t fs) (after : t.sessions[i]? = some y) :
    (i = s.sessions.length ∧ y.phase = .fresh ∧ Session.Course y.peer y [] ∧
        courseOf i fs = [] ∧ i ∉ unserved fs) ∨
      ∃ x, s.sessions[i]? = some x ∧ Change s fs i x y := by
  cases turn with
  | @joined _ x m r rs new fresh arrives taken =>
      have nobody : unserved (ofReception rs) = [] := by
        rw [unserved_ofReception]
        cases Reception.turn_of_step taken with
        | connected | woke => rfl
        | _ => cases arrives
      rcases Nat.lt_or_ge i s.sessions.length with less | more
      · rw [List.getElem?_append_left less] at after
        exact .inr ⟨y, after, .still (by simp) (by simp [nobody])⟩
      · rw [List.getElem?_append_right more, List.getElem?_singleton] at after
        split at after
        · cases after
          exact .inl ⟨by omega, fresh, new, by simp, by simp [nobody]⟩
        · cases after
  | heard m there outside undiscarded taken =>
      rcases set_cases there after with ⟨rfl, rfl⟩ | ⟨apart, here⟩
      · refine .inr ⟨_, there, .kept (by simpa using .single taken) ?_ (by simp)⟩
        exact Session.phase_of_turn (Session.turn_of_step taken) outside undiscarded
      · exact .inr ⟨y, here, .still (by simp [Ne.symm apart]) (by simp)⟩
  | unheard => exact .inr ⟨y, after, .still rfl (by simp)⟩
  | received taken nobody going =>
      obtain ⟨-, refused, turnedAway⟩ := nothing_of_settled going
      exact .inr ⟨y, after, .still (by simp) (by simp [refused, turnedAway])⟩
  | numbered c id taken =>
      simp only [onSession, List.getElem?_modify, Option.map_eq_map, Option.map_eq_some_iff]
        at after
      obtain ⟨x, here, rfl⟩ := after
      have spared : i ∉ unserved (ofReception [.accepted c id]) := by
        simp
      by_cases same : c = i
      · rw [if_pos same]
        have number : x.step (.number id) = some ({ x with id := id }, []) := rfl
        exact .inr ⟨x, here, .kept (by simpa using .single number) rfl spared⟩
      · rw [if_neg same]
        exact .inr ⟨x, here, .still (by simp) spared⟩
  | turnedAway c taken =>
      refine .inr (Change.of_discards (u := { s with reception := _ }) [c] rfl after (by simp) ?_)
      simp
  | handed pick c id submitted taken =>
      have unreleased := Crew.released_of_turn (Crew.turn_of_step submitted) (by simp)
      refine .inr ⟨y, after, .still (by simp) ?_⟩
      simp [unreleased]
  | refused pick c id submitted taken =>
      have unreleased := Crew.released_of_turn (Crew.turn_of_step submitted) (by simp)
      refine .inr (Change.of_discards (u := { s with crew := _, reception := _ }) [c] rfl after
        (by simp) ?_)
      simp [unreleased]
  | queued queueing taken =>
      obtain ⟨-, other, -⟩ := Crew.of_queueing queueing
      have unreleased := Crew.released_of_turn (Crew.turn_of_step taken) other
      exact .inr ⟨y, after, .still (by simp) (by simp [unreleased])⟩
  | served k m now busy there taken =>
      rcases set_cases there after with ⟨rfl, rfl⟩ | ⟨apart, here⟩
      · exact .inr ⟨_, there, .served busy (by simpa using taken) (by simp)⟩
      · exact .inr ⟨y, here, .still (by simp [Ne.symm apart]) (by simp)⟩
  | retired k m busy there past taken =>
      have unreleased := Crew.released_of_turn (Crew.turn_of_step taken) (by simp)
      exact .inr ⟨y, after, .still (by simp) (by simp [unreleased])⟩
  | closing _ _ taken =>
      have unreleased := Crew.released_of_turn (Crew.turn_of_step taken) (by simp)
      exact .inr ⟨y, after, .still (by simp) (by simp [unreleased])⟩
  | @advanced d =>
      exact .inr (Change.of_discards (u := { s with crew := d }) _ rfl after (by simp) (by simp))
  | ended => exact .inr ⟨y, after, .still rfl (by simp)⟩

/-- **What is recorded of a connection is a step of its session**; a turn of its own it takes with
the number of clients that the tally says. -/
theorem Turn.noted (turn : Turn s l t fs) (i : Nat) :
    courseOf i fs = [] ∨ ∃ x y m, s.sessions[i]? = some x ∧ x.step m = some (y, courseOf i fs) ∧
      ∀ now active, m = .turn now active → active = s.tally.value := by
  cases turn with
  | @heard _ j m x y gs there outside undiscarded taken =>
      by_cases same : j = i
      · subst same
        refine .inr ⟨x, y, m, there, by simpa using taken, ?_⟩
        exact fun now active here => absurd here (outside now active)
      · exact .inl (by simp [same])
  | @served k j now x y acts gs busy there taken =>
      by_cases same : j = i
      · subst same
        refine .inr ⟨x, y, _, there, by simpa using taken, ?_⟩
        intro now active here
        cases here
        rfl
      · exact .inl (by simp [same])
  | unheard | ended => exact .inl rfl
  | _ => exact .inl (by simp)

/-- A connection is done with only when its session is over. -/
theorem Turn.over_of_carriedOut (turn : Turn s l t fs)
    (done : i ∈ Crew.carriedOut (crewEvents fs)) :
    ∃ x, s.sessions[i]? = some x ∧ x.phase = .over := by
  cases turn with
  | retired k m busy here past =>
      rw [crewEvents_ofCrew] at done
      cases List.mem_singleton.mp done
      exact ⟨_, here, past⟩
  | handed _ _ _ submitted | refused _ _ _ submitted =>
      simp [Crew.carriedOut_of_turn (Crew.turn_of_step submitted) (by simp)] at done
  | queued queueing taken =>
      obtain ⟨-, -, -, other⟩ := Crew.of_queueing queueing
      simp [Crew.carriedOut_of_turn (Crew.turn_of_step taken) other] at done
  | closing _ _ taken | advanced _ taken =>
      simp [Crew.carriedOut_of_turn (Crew.turn_of_step taken) (by simp)] at done
  | ended => cases done
  | _ => simp [Crew.carriedOut, Crew.finished] at done

/-! ## Where a connection is, and its session -/

/-- Where connection `i` is says how far its session has come. -/
structure Lodged (es : List Entry) (i : Nat) (x : Session) : Prop where
  early : i ∉ Crew.handedOut (crewEvents es) → x.phase = .fresh ∨ x.phase = .discarded
  late : i ∈ Crew.carriedOut (crewEvents es) → x.phase = .over
  unserved : x.phase = .discarded ↔ i ∈ unserved es

theorem Lodged.change (lodged : Lodged es i x) (before : History n s es)
    (after : History n t (es ++ fs)) (change : Change s fs i x y)
    (past : i ∈ Crew.carriedOut (crewEvents fs) → x.phase = .over) : Lodged (es ++ fs) i y := by
  have early : i ∉ Crew.handedOut (crewEvents (es ++ fs)) →
      i ∉ Crew.handedOut (crewEvents es) := by
    intro absent present
    exact absent (by simp [present])
  have late : i ∈ Crew.carriedOut (crewEvents (es ++ fs)) → x.phase = .over := by
    intro done
    rw [crewEvents_append, Crew.carriedOut_append, List.mem_append] at done
    exact done.elim lodged.late past
  cases change with
  | kept reached phase spared =>
      refine ⟨fun absent => ?_, fun done => phase.trans (late done), ?_⟩
      · rw [phase]
        exact lodged.early (early absent)
      · rw [phase, lodged.unserved, mem_unserved_append, or_iff_left spared]
  | served busy taken spared =>
      obtain ⟨unfinished, kept⟩ := Session.serving_of_turn taken
      refine ⟨fun absent => ?_, fun done => absurd (late done) unfinished, ?_⟩
      · exact absurd (before.handedOut_of_busy busy) (early absent)
      · rw [mem_unserved_append, or_iff_left spared, ← lodged.unserved]
        exact iff_of_false (Session.served_of_turn taken) kept
  | discarded closed silent unserved =>
      subst closed
      have here : i ∈ Service.unserved (es ++ fs) := mem_unserved_append.mpr (.inr unserved)
      refine ⟨fun _ => .inr rfl, fun done => ?_, iff_of_true rfl here⟩
      exact absurd here (after.not_unserved (after.handedOut_of_carriedOut done))

/-- **Where a connection is says how far its session has come.** -/
theorem History.lodged (history : History n s es) (here : s.sessions[i]? = some x) :
    Lodged es i x := by
  induction history using History.induct generalizing x with
  | start => simp [new] at here
  | @next s t es fs l before turn after ih =>
      rcases turn.change here with ⟨rfl, fresh, -, -, spared⟩ | ⟨w, there, change⟩
      · -- Nobody has heard of a connection that has just been made.
        have unknown : s.sessions.length ∉ Crew.handedOut (crewEvents es) ++ unserved es := by
          intro member
          exact Nat.lt_irrefl _ (before.lt_of_mem_roll (List.mem_append_left s.waiting member))
        rw [List.mem_append, not_or] at unknown
        refine ⟨fun _ => .inl fresh, fun done => ?_, ?_⟩
        · rw [crewEvents_append, Crew.carriedOut_append, List.mem_append] at done
          rcases done with earlier | now
          · exact absurd (before.handedOut_of_carriedOut earlier) unknown.1
          · obtain ⟨z, found, -⟩ := turn.over_of_carriedOut now
            simp at found
        · rw [mem_unserved_append, fresh]
          exact iff_of_false (by simp) (not_or.mpr ⟨unknown.2, spared⟩)
      · exact (ih there).change before after change fun done => by
          obtain ⟨z, found, past⟩ := turn.over_of_carriedOut done
          cases there.symm.trans found
          exact past

/-! ## The course of a connection -/

/-- A connection that is closed unserved had not been served. -/
theorem History.fresh_of_discarded (before : History n s es) (after : History n t (es ++ fs))
    (here : s.sessions[i]? = some x) (closed : i ∈ unserved fs) : x.phase = .fresh := by
  have lodged := before.lodged here
  have absent : i ∉ Crew.handedOut (crewEvents es) := by
    intro present
    refine after.not_unserved (i := i) ?_ (mem_unserved_append.mpr (.inr closed))
    simp [present]
  have earlier : i ∉ unserved es := by
    have apart := (List.nodup_append.mp
      ((perm_unserved_append es fs).nodup_iff.mp after.unserved_nodup)).2.2
    exact fun member => apart i member i closed rfl
  exact (lodged.early absent).resolve_right (mt lodged.unserved.mp earlier)

/-- Connections are made one after the other, and only those that there are have anything happen to
them. -/
theorem Turn.unmade (turn : Turn s l t fs) (more : t.sessions.length ≤ i) :
    s.sessions.length ≤ i ∧ courseOf i fs = [] := by
  cases turn with
  | joined =>
      rw [List.length_append] at more
      exact ⟨Nat.le_of_add_right_le more, by simp⟩
  | heard m there | served _ m _ _ there =>
      rw [List.length_set] at more
      have less := (List.getElem?_eq_some_iff.mp there).1
      refine ⟨more, ?_⟩
      simp [Nat.ne_of_lt (Nat.lt_of_lt_of_le less more)]
  | unheard | ended => exact ⟨more, rfl⟩
  | numbered | turnedAway | refused | advanced => exact ⟨by simpa using more, by simp⟩
  | received | handed | queued | retired | closing => exact ⟨more, by simp⟩

/-- Nothing is recorded of a connection that has not been made. -/
theorem History.courseOf_eq_nil (history : History n s es) (more : s.sessions.length ≤ i) :
    courseOf i es = [] := by
  induction history using History.induct with
  | start => rfl
  | next before turn after ih =>
      obtain ⟨earlier, silent⟩ := turn.unmade more
      rw [courseOf_append, ih earlier, silent]
      rfl

/-- **The session of each connection has a course of its own**, made of what is recorded of that
connection. -/
theorem History.course (history : History n s es) (here : s.sessions[i]? = some x) :
    Session.Course x.peer x (courseOf i es) := by
  induction history using History.induct generalizing x with
  | start => simp [new] at here
  | @next s t es fs l before turn after ih =>
      rw [courseOf_append]
      rcases turn.change here with ⟨rfl, -, new, silent, -⟩ | ⟨w, there, change⟩
      · rw [silent, before.courseOf_eq_nil (Nat.le_refl _)]
        exact new
      · have course := ih there
        cases change with
        | kept reached => exact Session.peer_of_reaches reached ▸ course.trans reached
        | served busy taken =>
            have reached := Machine.Reaches.single taken
            exact Session.peer_of_reaches reached ▸ course.trans reached
        | discarded closed silent unserved =>
            subst closed
            have fresh := before.fresh_of_discarded after there unserved
            have taken : w.step .discard = some ({ w with phase := .discarded }, []) := if_pos fresh
            rw [silent]
            exact course.trans (.single taken)

end Service

end LineService
