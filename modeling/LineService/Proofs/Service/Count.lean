import LineService.Proofs.Service.Sessions
import Mathlib.Data.List.FinRange

/-!
# Counting clients

A client is counted while its session is between its first turn and the closing of its stream, and
only a worker that has the connection in hand can have brought it there (`History.held`).  So never
more clients are counted than there are workers (`History.counted_le`).  That keeps the tally from
being spoilt, and it always says how many clients are counted (`History.tally_eq`).

A session asks for the tally while its own client is counted, so what it tells its client lies
between one and the number of workers (`stats_truthful`).
-/

set_option autoImplicit false

namespace LineService

namespace Session

variable {x y : Session} {m : Label} {fs : List Event}

theorem isCounted_congr (phase : y.phase = x.phase) : y.isCounted = x.isCounted := by
  simp only [isCounted, phase]

/-- A turn counts the client, counts it out, or leaves the count alone. -/
theorem counted_of_turn (turn : Turn x m y fs) (undiscarded : m ≠ .discard) :
    (counting fs = [] ∧ y.isCounted = x.isCounted) ∨
      (counting fs = [.enter] ∧ x.isCounted = false ∧ y.isCounted = true) ∨
      (counting fs = [.leave] ∧ x.isCounted = true ∧ y.isCounted = false) := by
  cases turn with
  | received => exact .inl ⟨rfl, rfl⟩
  | aside _ _ _ phase => exact .inl ⟨rfl, isCounted_congr phase⟩
  | discarded => exact absurd rfl undiscarded
  | entered _ _ fresh => exact .inr (.inl ⟨rfl, by simp [isCounted, fresh], rfl⟩)
  | wentOut _ _ leaving => exact .inr (.inr ⟨rfl, by simp [isCounted, leaving], rfl⟩)
  | greeted _ _ phase | read _ _ phase | heardOut _ _ phase | troubled _ _ phase
  | asked _ _ phase | answered _ _ phase | answeredLast _ _ phase | unsent _ _ phase
  | closed _ _ phase | ended _ _ phase =>
      exact .inl ⟨rfl, by simp [isCounted, phase]⟩

/-- A session is asked a line in a turn of its own, with the number of clients at that moment, while
its client is counted. -/
theorem counted_of_asked (turn : Turn x m y fs) {q : Question} (question : q ∈ asked fs) :
    m = .turn q.now q.active ∧ x.isCounted = true := by
  cases turn with
  | asked now active answering =>
      cases List.mem_singleton.mp question
      exact ⟨rfl, by simp [isCounted, answering]⟩
  | _ => cases question

end Session

namespace Service

variable {s t : Service} {l : Label} {n : Nat} {es fs : List Entry} {i : Nat} {x y : Session}

/-! ## Lists of sessions -/

/-- Lists with the same number of entries are counted alike if their entries are. -/
theorem countP_eq_of_map_eq {α : Type} {p : α → Bool} {l l' : List α}
    (same : ∀ i : Nat, (l'[i]?).map p = (l[i]?).map p) : l'.countP p = l.countP p := by
  have maps : l'.map p = l.map p := List.ext_getElem? (by simpa using same)
  calc l'.countP p = (l'.map p).countP id := by rw [List.countP_map]; rfl
    _ = (l.map p).countP id := by rw [maps]
    _ = l.countP p := by rw [List.countP_map]; rfl

/-- Replacing an entry changes a count by the two entries alone. -/
theorem countP_set_getElem? {α : Type} {p : α → Bool} {l : List α} {i : Nat} {x y : α}
    (here : l[i]? = some x) :
    (l.set i y).countP p + (if p x then 1 else 0) = l.countP p + if p y then 1 else 0 := by
  obtain ⟨less, rfl⟩ := List.getElem?_eq_some_iff.mp here
  have one : (if p l[i] then 1 else 0) ≤ l.countP p := by
    split
    · rename_i counted
      exact List.countP_pos_iff.mpr ⟨l[i], List.getElem_mem less, counted⟩
    · exact Nat.zero_le _
  rw [List.countP_set less]
  omega

/-- There are no more entries of a kind than there are places for them. -/
theorem countP_le_of_places {α : Type} {p : α → Bool} {l : List α} {places : List Nat}
    (placed : ∀ (i : Nat) (x : α), l[i]? = some x → p x = true → i ∈ places) :
    l.countP p ≤ places.length := by
  let kept := (List.finRange l.length).filter fun i => p l[i]
  have apart : (kept.map Fin.val).Nodup :=
    ((List.nodup_finRange _).filter _).map Fin.val_injective
  have within : kept.map Fin.val ⊆ places := by
    intro i member
    obtain ⟨j, inside, rfl⟩ := List.mem_map.mp member
    exact placed j l[j] (List.getElem?_eq_getElem j.2) (by simpa [kept] using inside)
  calc l.countP p = ((List.finRange l.length).map fun i => l[i]).countP p := by
        rw [show (List.finRange l.length).map (fun i => l[i]) = l from List.map_getElem_finRange l]
    _ = (kept.map Fin.val).length := by
        rw [List.countP_map, List.length_map, List.countP_eq_length_filter]
        rfl
    _ ≤ places.length := (List.subperm_of_subset apart within).length_le

/-! ## Who is counted -/

/-- A client that is counted is in the hands of a worker. -/
theorem History.held (history : History n s es) (here : s.sessions[i]? = some x)
    (counted : x.isCounted = true) : i ∈ Crew.inHand s.crew := by
  have lodged := history.lodged here
  have handed : i ∈ Crew.handedOut (crewEvents es) := by
    by_contra absent
    rcases lodged.early absent with fresh | discarded
    · simp [Session.isCounted, fresh] at counted
    · simp [Session.isCounted, discarded] at counted
  rcases List.mem_append.mp (history.perm_handedOut.mem_iff.mp handed) with done | held
  · simp [Session.isCounted, lodged.late done] at counted
  · exact held

/-- Each worker has at most one connection in hand. -/
theorem History.inHand_le (history : History n s es) : (Crew.inHand s.crew).length ≤ n := by
  obtain ⟨cs, crew, -⟩ := history.ofCrew
  exact Nat.le_trans (List.length_filterMap_le _ _) crew.length_le.2

/-- **Never more clients are counted than there are workers**, nor than connections have been
handed over. -/
theorem History.counted_le (history : History n s es) :
    s.sessions.countP Session.isCounted ≤ n ∧
      s.sessions.countP Session.isCounted ≤ (Crew.accepted (crewEvents es)).length := by
  have held : s.sessions.countP Session.isCounted ≤ (Crew.inHand s.crew).length :=
    countP_le_of_places fun i x here counted => history.held here counted
  refine ⟨Nat.le_trans held history.inHand_le, Nat.le_trans held ?_⟩
  have handed := history.perm_handedOut.length_eq
  rw [history.accepted_eq]
  simp only [List.length_append] at handed ⊢
  omega

/-! ## The tally -/

/-- Closing connections that nobody has served changes no count. -/
theorem counted_discards {u : Service} (ns : List Nat) (same : u.sessions = s.sessions)
    (fresh : ∀ i ∈ ns, ∀ x, s.sessions[i]? = some x → x.phase = .fresh) :
    (ns.foldl discard u).sessions.countP Session.isCounted =
      s.sessions.countP Session.isCounted := by
  refine countP_eq_of_map_eq fun i => ?_
  rw [sessions_discards, same, Option.map_map]
  cases here : s.sessions[i]? with
  | none => rfl
  | some x =>
      by_cases closed : i ∈ ns
      · simp [closed, Session.isCounted, fresh i closed x here]
      · simp [closed]

/-- Replacing a session by one that is counted alike changes no count. -/
theorem counted_set (here : s.sessions[i]? = some x) (alike : y.isCounted = x.isCounted) :
    (s.sessions.set i y).countP Session.isCounted = s.sessions.countP Session.isCounted := by
  have change := countP_set_getElem? (p := Session.isCounted) (y := y) here
  rw [alike] at change
  exact Nat.add_right_cancel change

/-- What a turn of a session does to a tally that says how many clients are counted, as long as
there is room for them. -/
theorem tally_of_turn {m : Session.Label} {gs : List Session.Event} (turn : Session.Turn x m y gs)
    (undiscarded : m ≠ .discard) (here : s.sessions[i]? = some x)
    (tally : s.tally = ⟨s.sessions.countP Session.isCounted, false⟩)
    (room : (s.sessions.set i y).countP Session.isCounted < Tally.bound) :
    (Session.counting gs).foldl count s.tally =
      ⟨(s.sessions.set i y).countP Session.isCounted, false⟩ := by
  have change := countP_set_getElem? (p := Session.isCounted) (y := y) here
  rcases Session.counted_of_turn turn undiscarded with
    ⟨silent, same⟩ | ⟨enters, before, after⟩ | ⟨leaves, before, after⟩
  · rw [silent, tally, counted_set here same]
    rfl
  · rw [before, after] at change
    simp only [Bool.false_eq_true, if_false, if_true, Nat.add_zero] at change
    rw [change] at room ⊢
    rw [enters, tally]
    simp [count, Tally.increment, room]
  · rw [before, after] at change
    simp only [Bool.false_eq_true, if_false, if_true, Nat.add_zero] at change
    rw [leaves, tally, ← change]
    rfl

/-- A service has no more workers than can be counted. -/
theorem History.room (history : History n s es) : n < Tally.bound := by
  obtain ⟨_, _, _, opening, -⟩ := history
  exact opening.room

/-- **The tally says how many clients are counted**, and is never spoilt. -/
theorem History.tally_eq (history : History n s es) :
    s.tally = ⟨s.sessions.countP Session.isCounted, false⟩ := by
  induction history using History.induct with
  | start => rfl
  | @next s t es fs l before turn after ih =>
      -- Connections that are closed unserved were not counted.
      have closing (u : Service) (ns : List Nat) (same : u.sessions = s.sessions)
          (closed : ∀ i ∈ ns, i ∈ unserved fs) :
          s.tally = ⟨(ns.foldl discard u).sessions.countP Session.isCounted, false⟩ := by
        rw [counted_discards ns same fun i member x here =>
          before.fresh_of_discarded after here (closed i member)]
        exact ih
      cases turn with
      | joined x new fresh => simp [ih, Session.isCounted, fresh]
      | heard m there outside undiscarded taken =>
          have phase := Session.phase_of_turn (Session.turn_of_step taken) outside undiscarded
          simp only [counted_set there (Session.isCounted_congr phase)]
          exact ih
      | @numbered c id r =>
          have alike : (s.sessions.modify c fun x => { x with id := id }).countP Session.isCounted =
              s.sessions.countP Session.isCounted := by
            refine countP_eq_of_map_eq fun i => ?_
            rw [List.getElem?_modify]
            cases s.sessions[i]? with
            | none => rfl
            | some x => by_cases same : c = i <;> simp [same, Session.isCounted]
          simp only [onSession, alike]
          exact ih
      | @turnedAway c r =>
          refine closing { s with reception := r } [c] rfl ?_
          simp
      | @refused pick c id d r =>
          refine closing { s with crew := d, reception := r } [c] rfl ?_
          simp
      | @advanced d cs =>
          rw [discards_tally]
          exact closing { s with crew := d } (Crew.released cs) rfl (by simp)
      | served k m now busy there taken =>
          exact tally_of_turn (Session.turn_of_step taken) (by simp) there ih
            (Nat.lt_of_le_of_lt after.counted_le.1 before.room)
      | _ => exact ih

/-! ## What clients are told -/

/-- **A session is asked with between one and `n` clients being counted**: its own client is one of
them. -/
theorem History.asked_between (history : History n s es) {q : Session.Question}
    (question : q ∈ Session.asked (courseOf i es)) : 1 ≤ q.active ∧ q.active ≤ n := by
  induction history using History.induct with
  | start => cases question
  | @next s t es fs l before turn after ih =>
      rw [courseOf_append, Session.asked_append, List.mem_append] at question
      rcases question with earlier | now
      · exact ih earlier
      · rcases turn.noted i with silent | ⟨x, y, m, here, taken, reading⟩
        · rw [silent] at now
          cases now
        · obtain ⟨asking, counted⟩ := Session.counted_of_asked (Session.turn_of_step taken) now
          rw [reading _ _ asking, before.tally_eq]
          exact ⟨List.countP_pos_iff.mpr ⟨x, List.mem_of_getElem? here, counted⟩,
            before.counted_le.1⟩

/-- What a session has sent in its place is the answer to what it was asked in that place. -/
theorem History.sent_eq (history : History n s es) (here : s.sessions[i]? = some x) {k : Nat}
    {text : String} (sent : x.sent[k]? = some text) :
    ∃ q, (Session.asked (courseOf i es))[k]? = some q ∧ text = q.answer := by
  obtain ⟨owed, answers, -⟩ := (history.course here).answers
  have place : (x.sent ++ owed)[k]? = some text := by
    rw [List.getElem?_append_left (List.getElem?_eq_some_iff.mp sent).1, sent]
  rw [← answers, List.getElem?_map, Option.map_eq_some_iff] at place
  obtain ⟨q, asked, rfl⟩ := place
  exact ⟨q, asked, rfl⟩

/-- A client is counted from when it was counted until it is counted out, and its stream is closed
by then. -/
theorem History.counted_iff (history : History n s es) (here : s.sessions[i]? = some x) :
    (x.isCounted = true ↔ Session.counting (courseOf i es) = [.enter]) ∧
      (.leave ∈ Session.counting (courseOf i es) → x.isOpen = false) ∧
      (.enter ∈ Session.counting (courseOf i es) → x.isOpen = true → x.isCounted = true) := by
  rw [(history.course here).counting_eq]
  cases phase : x.phase <;> simp [Session.passages, Session.isCounted, Session.isOpen, phase]

/-- **What clients are told is true.**  In a service with `n` workers, whatever clients, workers and
those who stop the service do in whatever order:

* the tally says how many clients are counted, which are at most `n` and at most as many as
  connections were handed over;
* a client is counted from when its session has begun until it has ended, its stream is closed
  when it is counted out, and a client whose session has begun is counted as long as its stream is
  open;
* every session is asked with between one and `n` clients being counted, and its answer to `STATS`
  is this number in decimal digits behind the words `Active clients: `. -/
theorem stats_truthful (history : History n s es) :
    (s.tally.get = .ok (s.sessions.countP Session.isCounted) ∧
      s.sessions.countP Session.isCounted ≤ n ∧
      s.sessions.countP Session.isCounted ≤
        (Reception.handed (receptionEvents es)).length) ∧
    ∀ i x, s.sessions[i]? = some x →
      (x.isCounted = true ↔ Session.counting (courseOf i es) = [.enter]) ∧
      (.leave ∈ Session.counting (courseOf i es) → x.isOpen = false) ∧
      (.enter ∈ Session.counting (courseOf i es) → x.isOpen = true → x.isCounted = true) ∧
      (∀ q ∈ Session.asked (courseOf i es), 1 ≤ q.active ∧ q.active ≤ n) ∧
      ∀ (k : Nat) text, x.sent[k]? = some text →
        ∃ q, (Session.asked (courseOf i es))[k]? = some q ∧ text = q.answer ∧
          (Request.ofLine q.line = .stats → text = Response.activeClients q.active ∧
            text.toList = "Active clients: ".toList ++ Nat.toDigits 10 q.active) := by
  refine ⟨⟨?_, history.counted_le.1, ?_⟩, fun i x here => ?_⟩
  · rw [history.tally_eq]
    rfl
  · rw [← history.booked.handed]
    exact history.counted_le.2
  · obtain ⟨counted, closed, opened⟩ := history.counted_iff here
    refine ⟨counted, closed, opened, fun q => history.asked_between, fun k text sent => ?_⟩
    obtain ⟨q, asked, rfl⟩ := history.sent_eq here sent
    refine ⟨q, asked, rfl, fun stats => ?_⟩
    have told : q.answer = Response.activeClients q.active := by
      rw [Session.Question.answer, stats]
      rfl
    exact ⟨told, told ▸ Response.toList_activeClients q.active⟩

/-- Two workers are serving two clients when the first asks how many there are, and is told. -/
theorem stats_truthful_two_clients :
    ∃ s es x, History 2 s es ∧ s.sessions[0]? = some x ∧ s.tally.get = .ok 2 ∧
      s.sessions.countP Session.isCounted = 2 ∧
      Session.asked (courseOf 0 es) = [⟨"STATS", "noon", 2⟩] ∧
      (1 ≤ 2 ∧ 2 ≤ 2) ∧ x.sent[0]? = some "Active clients: 2" := by
  have history : History 2 _ _ :=
    ⟨_, _, 1, Opening.founded (by decide) (by decide), Machine.reaches_of_run
      [.look, .look, .connect "a", .connect "b", .accept, .look, .hand 0, .look, .accept, .look,
        .hand 0, .ask 0, .ask 1, .serve 0 "noon", .serve 1 "noon", .serve 0 "noon",
        .receive 0 (Line.write "STATS"), .serve 0 "noon", .serve 0 "noon", .serve 0 "noon"] rfl⟩
  obtain ⟨⟨tally, -, -⟩, clients⟩ := stats_truthful history
  obtain ⟨-, -, -, between, -⟩ := clients 0 _ rfl
  exact ⟨_, _, _, history, rfl, tally, rfl, rfl, between _ (.head _), rfl⟩

end Service

end LineService
