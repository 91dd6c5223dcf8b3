import LineService.Proofs.Line.Arrival
import LineService.Proofs.Machine.Runs
import LineService.Session

/-!
# One session and all that can happen to it

A session has a course of its own: bytes arrive, the client finishes or the connection breaks,
sending fails from some moment on, the connection gets its number or is closed unserved, and in
between the session takes its turns, each at some time and with some number of clients being
served.  `Session.step` lets all of this happen in any order, and tells which bytes have arrived,
which lines have been put to the session, and what it has done.

`Turn` says of every step what it needs and leaves (`turn_of_step`).  Every turn of a session
brings it nearer to its end (`rank_lt`), and once its client has finished there always is a next
one (`turn_isSome`).  So it comes to its end whatever the time and whoever else is served
(`over_of_turns`).
-/

set_option autoImplicit false

namespace LineService.Session

/-- What can happen to a session. -/
inductive Label where
  | receive (bytes : List UInt8)
  | finish
  | sever (f : Net.Fault)
  | silence (f : Net.Fault)
  /-- The connection gets its number. -/
  | number (id : UInt32)
  /-- The connection is closed before anybody has served the client. -/
  | discard
  | turn (now : String) (active : Nat)
  deriving DecidableEq, Repr

/-- A line that is put to a session, the time, and the number of clients being served then. -/
structure Question where
  line : String
  now : String
  active : Nat
  deriving DecidableEq, Repr

/-- What it comes to. -/
inductive Event where
  | arrived (bytes : List UInt8)
  | asked (q : Question)
  | act (a : Act)
  deriving DecidableEq, Repr

/-- The text that answers a question. -/
def Question.answer (q : Question) : String :=
  ((Request.ofLine q.line).respond q.now q.active).text

/-- The bytes that a session hears of. -/
def hearing (s : Session) (bytes : List UInt8) : List Event :=
  if s.inbox.outlook = .expecting then [.arrived bytes] else []

/-- The question that a session is about to answer. -/
def asking (s : Session) (now : String) (active : Nat) : List Event :=
  match s.phase with
  | .answering line => [.asked ⟨line, now, active⟩]
  | _ => []

/-- All that can happen to a session, in any order. -/
def step : Machine.Step Session Label Event := fun s l =>
  match l with
  | .receive bytes => some (s.receive bytes, s.hearing bytes)
  | .finish => some (s.finish, [])
  | .sever f => some (s.sever f, [])
  | .silence f => some (s.silence f, [])
  | .number id => some ({ s with id := id }, [])
  | .discard => if s.phase = .fresh then some ({ s with phase := .discarded }, []) else none
  | .turn now active =>
    (s.turn now active).map fun r => (r.1, s.asking now active ++ r.2.map .act)

/-- A session of the client at `peer` can come to be `s`, and `es` is its course. -/
def Course (peer : String) (s : Session) (es : List Event) : Prop :=
  Machine.Reaches step (new peer) s es

variable {s t : Session}

/-- What a step needs, leaves and comes to. -/
inductive Turn (s : Session) : Label → Session → List Event → Prop where
  | received (bytes : List UInt8) (expecting : s.inbox.outlook = .expecting) :
      Turn s (.receive bytes)
        { s with inbox := { s.inbox with pending := s.inbox.pending ++ bytes } } [.arrived bytes]
  /-- Nothing that the session itself does: the outlook may become certain, sending may begin
  to fail, or the number is given. -/
  | aside {l : Label} (t : Session) (outside : ∀ now active, l ≠ .turn now active)
      (peer : t.peer = s.peer) (phase : t.phase = s.phase) (sent : t.sent = s.sent)
      (pending : t.inbox.pending = s.inbox.pending)
      (heard : t.inbox.outlook = s.inbox.outlook ∨ s.inbox.outlook = .expecting)
      (mute : s.mute ≠ none → t.mute ≠ none) : Turn s l t []
  | discarded (fresh : s.phase = .fresh) : Turn s .discard { s with phase := .discarded } []
  | entered (now : String) (active : Nat) (fresh : s.phase = .fresh) :
      Turn s (.turn now active) { s with phase := .counted } [.act .enter]
  | greeted (now : String) (active : Nat) (counted : s.phase = .counted) :
      Turn s (.turn now active) { s with phase := .reading } [.act (.note (.connected active))]
  | read (now : String) (active : Nat) {text : String} {size : Nat} {i : Line.Inbox}
      (reading : s.phase = .reading) (took : s.inbox.Read (.line text size) i) :
      Turn s (.turn now active) { s with inbox := i, phase := .answering text }
        [.act (.note (.received size)), .act (.note (.processing text))]
  | heardOut (now : String) (active : Nat) {i : Line.Inbox} (reading : s.phase = .reading)
      (took : s.inbox.Read .finished i) :
      Turn s (.turn now active) { s with inbox := i, phase := .closing }
        [.act (.note .disconnected)]
  | troubled (now : String) (active : Nat) {trouble : Line.Trouble} {i : Line.Inbox}
      (reading : s.phase = .reading) (took : s.inbox.Read (.trouble trouble) i) :
      Turn s (.turn now active) { s with inbox := i, phase := .closing }
        [.act (.note (.receiveFailed trouble))]
  | asked (now : String) (active : Nat) {line : String} (answering : s.phase = .answering line) :
      Turn s (.turn now active)
        { s with phase := .replying ((Request.ofLine line).respond now active) }
        [.asked ⟨line, now, active⟩]
  | answered (now : String) (active : Nat) {r : Response} (replying : s.phase = .replying r)
      (able : s.mute = none) (last : r.closes = false) :
      Turn s (.turn now active) { s with sent := s.sent ++ [r.text], phase := .reading } []
  | answeredLast (now : String) (active : Nat) {r : Response} (replying : s.phase = .replying r)
      (able : s.mute = none) (last : r.closes = true) :
      Turn s (.turn now active) { s with sent := s.sent ++ [r.text], phase := .closing }
        [.act (.note .quit)]
  | unsent (now : String) (active : Nat) {r : Response} {f : Net.Fault}
      (replying : s.phase = .replying r) (unable : s.mute = some f) :
      Turn s (.turn now active) { s with phase := .closing } [.act (.note (.sendFailed f))]
  | closed (now : String) (active : Nat) (closing : s.phase = .closing) :
      Turn s (.turn now active) { s with phase := .leaving } []
  | wentOut (now : String) (active : Nat) (leaving : s.phase = .leaving) :
      Turn s (.turn now active) { s with phase := .left } [.act .leave]
  | ended (now : String) (active : Nat) (left : s.phase = .left) :
      Turn s (.turn now active) { s with phase := .over } [.act (.note (.closed active))]

/-! ## Every step is a turn -/

theorem turn_of_receive (s : Session) (bytes : List UInt8) :
    Turn s (.receive bytes) (s.receive bytes) (s.hearing bytes) := by
  by_cases expecting : s.inbox.outlook = .expecting
  · have heard : s.receive bytes =
        { s with inbox := { s.inbox with pending := s.inbox.pending ++ bytes } } := by
      simp [receive, Line.Inbox.receive, expecting]
    rw [heard, hearing, if_pos expecting]
    exact .received bytes expecting
  · have same : s.receive bytes = s := by
      cases outlook : s.inbox.outlook with
      | expecting => exact absurd outlook expecting
      | ended => simp [receive, Line.Inbox.receive, outlook]
      | broken f => simp [receive, Line.Inbox.receive, outlook]
    rw [same, hearing, if_neg expecting]
    exact .aside s nofun rfl rfl rfl rfl (.inl rfl) fun mute => mute

theorem turn_of_finish (s : Session) : Turn s .finish s.finish [] := by
  cases outlook : s.inbox.outlook with
  | expecting =>
      exact .aside _ nofun rfl rfl rfl (by simp [finish, Line.Inbox.finish, outlook])
        (.inr outlook) fun mute => mute
  | ended | broken f =>
      have same : s.finish = s := by simp [finish, Line.Inbox.finish, outlook]
      exact same.symm ▸ .aside s nofun rfl rfl rfl rfl (.inl rfl) fun mute => mute

theorem turn_of_sever (s : Session) (f : Net.Fault) : Turn s (.sever f) (s.sever f) [] := by
  have mute : s.mute ≠ none → (s.sever f).mute ≠ none := by simp [sever]
  cases outlook : s.inbox.outlook with
  | expecting =>
      exact .aside _ nofun rfl rfl rfl (by simp [sever, Line.Inbox.sever, outlook])
        (.inr outlook) mute
  | ended | broken f' =>
      have same : s.inbox.sever f = s.inbox := by simp [Line.Inbox.sever, outlook]
      exact .aside _ nofun rfl rfl rfl (by simp [sever, same]) (.inl (by simp [sever, same])) mute

theorem turn_of_turn {now : String} {active : Nat} {es : List Event}
    (taken : s.step (.turn now active) = some (t, es)) : Turn s (.turn now active) t es := by
  simp only [step, Option.map_eq_some_iff, Prod.mk.injEq] at taken
  obtain ⟨⟨u, acts⟩, took, rfl, rfl⟩ := taken
  cases phase : s.phase with
  | fresh =>
      simp only [turn, phase, Option.some.injEq, Prod.mk.injEq] at took
      obtain ⟨rfl, rfl⟩ := took
      simpa [asking, phase] using Turn.entered now active phase
  | counted =>
      simp only [turn, phase, Option.some.injEq, Prod.mk.injEq] at took
      obtain ⟨rfl, rfl⟩ := took
      simpa [asking, phase] using Turn.greeted now active phase
  | reading =>
      simp only [turn, phase] at took
      split at took
      · cases took
      · rename_i r i line
        have read := Line.Inbox.read_of_read? line
        cases r with
        | line text size =>
            simp only [afterReading, Option.some.injEq, Prod.mk.injEq] at took
            obtain ⟨rfl, rfl⟩ := took
            simpa [asking, phase] using Turn.read now active phase read
        | finished =>
            simp only [afterReading, Option.some.injEq, Prod.mk.injEq] at took
            obtain ⟨rfl, rfl⟩ := took
            simpa [asking, phase] using Turn.heardOut now active phase read
        | trouble trouble =>
            simp only [afterReading, Option.some.injEq, Prod.mk.injEq] at took
            obtain ⟨rfl, rfl⟩ := took
            simpa [asking, phase] using Turn.troubled now active phase read
  | answering line =>
      simp only [turn, phase, Option.some.injEq, Prod.mk.injEq] at took
      obtain ⟨rfl, rfl⟩ := took
      simpa [asking, phase] using Turn.asked now active phase
  | replying r =>
      simp only [turn, phase, reply, Option.some.injEq] at took
      split at took
      · rename_i f unable
        obtain ⟨rfl, rfl⟩ := Prod.mk.inj took
        simpa [asking, phase] using Turn.unsent now active phase unable
      · rename_i able
        split at took
        · rename_i last
          obtain ⟨rfl, rfl⟩ := Prod.mk.inj took
          simpa [asking, phase] using Turn.answeredLast now active phase able last
        · rename_i more
          obtain ⟨rfl, rfl⟩ := Prod.mk.inj took
          simpa [asking, phase] using Turn.answered now active phase able (by simpa using more)
  | closing =>
      simp only [turn, phase, Option.some.injEq, Prod.mk.injEq] at took
      obtain ⟨rfl, rfl⟩ := took
      simpa [asking, phase] using Turn.closed now active phase
  | leaving =>
      simp only [turn, phase, Option.some.injEq, Prod.mk.injEq] at took
      obtain ⟨rfl, rfl⟩ := took
      simpa [asking, phase] using Turn.wentOut now active phase
  | left =>
      simp only [turn, phase, Option.some.injEq, Prod.mk.injEq] at took
      obtain ⟨rfl, rfl⟩ := took
      simpa [asking, phase] using Turn.ended now active phase
  | _ => simp [turn, phase] at took

/-- **Every step is one of the turns.** -/
theorem turn_of_step {l : Label} {es : List Event} (taken : s.step l = some (t, es)) :
    Turn s l t es := by
  cases l with
  | receive bytes =>
      cases taken
      exact turn_of_receive s bytes
  | finish =>
      cases taken
      exact turn_of_finish s
  | sever f =>
      cases taken
      exact turn_of_sever s f
  | silence f =>
      cases taken
      exact .aside _ nofun rfl rfl rfl rfl (.inl rfl) (by simp [silence])
  | number id =>
      cases taken
      exact .aside _ nofun rfl rfl rfl rfl (.inl rfl) fun mute => mute
  | discard =>
      simp only [step] at taken
      split at taken
      · rename_i fresh
        cases taken
        exact .discarded fresh
      · cases taken
  | turn now active => exact turn_of_turn taken

/-! ## Coming to the end -/

/-- How many turns a session can still take: three for each line, and those of its other
phases. -/
def rank (s : Session) : Nat :=
  match s.phase with
  | .fresh => 3 * s.inbox.pending.length + 6
  | .counted => 3 * s.inbox.pending.length + 5
  | .reading => 3 * s.inbox.pending.length + 4
  | .answering _ => 3 * s.inbox.pending.length + 6
  | .replying _ => 3 * s.inbox.pending.length + 5
  | .closing => 3
  | .leaving => 2
  | .left => 1
  | .over | .discarded => 0

theorem rank_le_turnBound (s : Session) : s.rank ≤ s.turnBound := by
  simp only [rank, turnBound]
  split <;> omega

/-- The turns that a session takes at these times, with these numbers of clients. -/
def turns (readings : List (String × Nat)) : List Label :=
  readings.map fun r => .turn r.1 r.2

/-- Every turn brings a session nearer to its end. -/
theorem rank_lt {now : String} {active : Nat} {es : List Event}
    (taken : s.step (.turn now active) = some (t, es)) : t.rank < s.rank := by
  generalize turning : Label.turn now active = l at taken
  cases turn_of_step taken with
  | received | discarded => cases turning
  | aside _ outside => exact absurd turning.symm (outside now active)
  | entered _ _ fresh => simp [rank, fresh]
  | greeted _ _ counted => simp [rank, counted]
  | read _ _ reading took =>
      have fewer := took.length_lt
      simp only [rank, reading]
      omega
  | heardOut _ _ reading | troubled _ _ reading =>
      simp only [rank, reading]
      omega
  | asked _ _ answering => simp [rank, answering]
  | answered _ _ replying => simp [rank, replying]
  | answeredLast _ _ replying | unsent _ _ replying =>
      simp only [rank, replying]
      omega
  | closed _ _ closing => simp [rank, closing]
  | wentOut _ _ leaving => simp [rank, leaving]
  | ended _ _ left => simp [rank, left]

/-- A turn hears nothing. -/
theorem outlook_of_turn {now : String} {active : Nat} {es : List Event}
    (taken : s.step (.turn now active) = some (t, es)) : t.inbox.outlook = s.inbox.outlook := by
  generalize turning : Label.turn now active = l at taken
  cases turn_of_step taken with
  | received | discarded => cases turning
  | aside _ outside => exact absurd turning.symm (outside now active)
  | read _ _ _ took | heardOut _ _ _ took | troubled _ _ _ took => exact took.outlook_eq
  | _ => rfl

/-- A turn does not change whether sending fails. -/
theorem mute_eq_of_turn {now : String} {active : Nat} {es : List Event}
    (taken : s.step (.turn now active) = some (t, es)) : t.mute = s.mute := by
  generalize turning : Label.turn now active = l at taken
  cases turn_of_step taken with
  | received | discarded => cases turning
  | aside _ outside => exact absurd turning.symm (outside now active)
  | _ => rfl

/-- A turn closes no connection that nobody has served. -/
theorem served_of_turn {now : String} {active : Nat} {es : List Event}
    (taken : s.step (.turn now active) = some (t, es)) : t.phase ≠ .discarded := by
  generalize turning : Label.turn now active = l at taken
  cases turn_of_step taken with
  | received | discarded => cases turning
  | aside _ outside => exact absurd turning.symm (outside now active)
  | _ => simp

/-- A session waits only for its client: once that one has finished, or the connection has
broken, there is a next turn until the session is over. -/
theorem turn_isSome (closed : s.inbox.outlook ≠ .expecting) (unfinished : s.phase ≠ .over)
    (served : s.phase ≠ .discarded) (now : String) (active : Nat) :
    ∃ t es, s.step (.turn now active) = some (t, es) := by
  have turns : ∃ r, s.turn now active = some r := by
    match phase : s.phase with
    | .over => exact absurd phase unfinished
    | .discarded => exact absurd phase served
    | .reading =>
        obtain ⟨r, i, line⟩ := Line.Inbox.read?_isSome closed
        exact ⟨_, by simp only [turn, phase, line]; rfl⟩
    | .fresh | .counted | .answering _ | .replying _ | .closing | .leaving | .left =>
        exact ⟨_, by simp only [turn, phase]; rfl⟩
  obtain ⟨⟨t, acts⟩, turned⟩ := turns
  exact ⟨t, _, by simp only [step, turned, Option.map_some]; rfl⟩

/-- **A session whose client has finished comes to its end** by its own turns alone, whatever
the time and the number of clients at each of them. -/
theorem over_of_turns (closed : s.inbox.outlook ≠ .expecting) (served : s.phase ≠ .discarded)
    (readings : Nat → String × Nat) :
    ∃ n ≤ s.turnBound, ∃ t es, t.phase = .over ∧
      Machine.run step s (turns ((List.range n).map readings)) = some (t, es) := by
  suffices ∃ n ≤ s.rank, ∃ t es, t.phase = .over ∧
      Machine.run step s (turns ((List.range n).map readings)) = some (t, es) by
    obtain ⟨n, few, rest⟩ := this
    exact ⟨n, Nat.le_trans few s.rank_le_turnBound, rest⟩
  induction bound : s.rank using Nat.strongRecOn generalizing s readings with
  | ind bound ih =>
      subst bound
      by_cases finished : s.phase = .over
      · exact ⟨0, Nat.zero_le _, s, [], finished, rfl⟩
      · obtain ⟨u, fs, taken⟩ := turn_isSome closed finished served (readings 0).1 (readings 0).2
        have nearer := rank_lt taken
        obtain ⟨n, few, t, es, finished, ran⟩ := ih u.rank nearer
          (outlook_of_turn taken ▸ closed) (served_of_turn taken) (fun i => readings (i + 1)) rfl
        refine ⟨n + 1, Nat.lt_of_le_of_lt few nearer, t, fs ++ es, finished, ?_⟩
        have later : (List.range (n + 1)).map readings =
            readings 0 :: (List.range n).map fun i => readings (i + 1) := by
          rw [List.range_succ_eq_map, List.map_cons, List.map_map]
          rfl
        rw [turns] at ran
        simp only [later, turns, List.map_cons, Machine.run, taken, ran, Option.map_some]

end LineService.Session
