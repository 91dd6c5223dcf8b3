import LineService.Client.Link
import LineService.Proofs.Session.Answers

/-!
# A client and a session, and the bytes on their way

A client that follows a dialogue speaks a command and then waits for a reply.  What it writes is on
its way to the session, and what the session sends is on its way back; both streams are in order and
lose nothing, but bytes arrive in pieces of any size and at any moment.  The session takes its turns
in between, each at some time and with some number of clients being served.  When it has closed its
stream and everything it has sent has arrived, the client comes to see the end of the stream.

`Conversation.Turn` says of every step what it needs and leaves (`turn_of_step`).  What happens to
the session in a conversation is a course of it (`course_of_reaches`), and every schedule comes to
an end (`acc_follows`): a dialogue is finite, and between two of its steps bytes only come nearer to
where they are read and the session nearer to its end.
-/

set_option autoImplicit false

namespace LineService.Client

/-- Where a client stands in its dialogue. -/
inductive Stand (α : Type) where
  | ready (d : Dialogue α)
  /-- A command has been written, and the reply is awaited. -/
  | waiting (go : Reply → Dialogue α)

/-- How many replies are still due to the commands that have been written. -/
def Stand.due {α : Type} : Stand α → Nat
  | .ready _ => 0
  | .waiting _ => 1

/-- A client, a session, and the bytes that are on their way. -/
structure Conversation (α : Type) where
  stand : Stand α
  /-- What has arrived at the client. -/
  inbox : Line.Inbox
  /-- What the client has written and the session has not heard. -/
  outgoing : List UInt8
  /-- What the session has sent and the client has not heard. -/
  incoming : List UInt8
  session : Session

namespace Conversation

variable {α : Type}

/-- The client has just been connected. -/
def start (peer : String) (d : Dialogue α) : Conversation α :=
  ⟨.ready d, .empty, [], [], .new peer⟩

/-- Who takes the next step. -/
inductive Label where
  /-- The client writes a command. -/
  | speak
  /-- The next `n` bytes reach the session. -/
  | carry (n : Nat)
  | turn (now : String) (active : Nat)
  /-- The next `n` bytes reach the client. -/
  | bring (n : Nat)
  /-- The end of the stream reaches the client. -/
  | close
  /-- The client reads. -/
  | read
  deriving DecidableEq, Repr

/-- What a step comes to. -/
inductive Event where
  | spoke (command : String)
  | heard (reply : Reply)
  | session (e : Session.Event)
  deriving DecidableEq, Repr

/-- All that can happen in a conversation, in any order. -/
def step : Machine.Step (Conversation α) Label Event := fun c l =>
  match l with
  | .speak =>
    match c.stand with
    | .ready (.ask command go) =>
      some ({ c with stand := .waiting go, outgoing := c.outgoing ++ Line.write command },
        [.spoke command])
    | _ => none
  | .carry n =>
    if c.outgoing.take n = [] then none
    else (c.session.step (.receive (c.outgoing.take n))).map fun r =>
      ({ c with outgoing := c.outgoing.drop n, session := r.1 }, r.2.map .session)
  | .turn now active =>
    (c.session.step (.turn now active)).map fun r =>
      ({ c with session := r.1, incoming := c.incoming ++ sentSince c.session r.1 },
        r.2.map .session)
  | .bring n =>
    if c.incoming.take n = [] then none
    else
      some ({ c with incoming := c.incoming.drop n, inbox := c.inbox.receive (c.incoming.take n) },
        [])
  | .close =>
    if c.session.isOpen = false ∧ c.incoming = [] ∧ c.inbox.outlook = .expecting then
      some ({ c with inbox := c.inbox.finish }, [])
    else none
  | .read =>
    match c.stand with
    | .waiting go => c.inbox.read?.map fun r =>
      ({ c with stand := .ready (go (.ofReading r.1)), inbox := r.2 }, [.heard (.ofReading r.1)])
    | .ready _ => none

variable {c c' : Conversation α} {l : Label} {es fs : List Event}

/-! ## Every step is a turn -/

/-- What a step needs, leaves and comes to. -/
inductive Turn (c : Conversation α) : Label → Conversation α → List Event → Prop where
  | spoke {command : String} {go : Reply → Dialogue α}
      (ready : c.stand = .ready (.ask command go)) :
      Turn c .speak { c with stand := .waiting go, outgoing := c.outgoing ++ Line.write command }
        [.spoke command]
  | carried (n : Nat) {s : Session} {es : List Session.Event} (any : c.outgoing.take n ≠ [])
      (taken : c.session.step (.receive (c.outgoing.take n)) = some (s, es)) :
      Turn c (.carry n) { c with outgoing := c.outgoing.drop n, session := s } (es.map .session)
  | served (now : String) (active : Nat) {s : Session} {es : List Session.Event}
      (taken : c.session.step (.turn now active) = some (s, es)) :
      Turn c (.turn now active)
        { c with session := s, incoming := c.incoming ++ sentSince c.session s } (es.map .session)
  | brought (n : Nat) (any : c.incoming.take n ≠ []) :
      Turn c (.bring n)
        { c with incoming := c.incoming.drop n, inbox := c.inbox.receive (c.incoming.take n) } []
  | closed (closed : c.session.isOpen = false) (drained : c.incoming = [])
      (expecting : c.inbox.outlook = .expecting) :
      Turn c .close { c with inbox := { c.inbox with outlook := .ended } } []
  | read {go : Reply → Dialogue α} {r : Line.Reading} {i : Line.Inbox}
      (waiting : c.stand = .waiting go) (taken : c.inbox.read? = some (r, i)) :
      Turn c .read { c with stand := .ready (go (.ofReading r)), inbox := i }
        [.heard (.ofReading r)]

/-- **Every step is one of the turns.** -/
theorem turn_of_step (taken : step c l = some (c', es)) : Turn c l c' es := by
  cases l with
  | speak =>
      simp only [step] at taken
      split at taken
      · rename_i ready
        cases taken
        exact .spoke ready
      · cases taken
  | carry n =>
      simp only [step] at taken
      split at taken
      · cases taken
      · rename_i any
        obtain ⟨⟨s, fs⟩, heard, same⟩ := Option.map_eq_some_iff.mp taken
        cases same
        exact .carried n any heard
  | turn now active =>
      obtain ⟨⟨s, fs⟩, served, same⟩ := Option.map_eq_some_iff.mp taken
      cases same
      exact .served now active served
  | bring n =>
      simp only [step] at taken
      split at taken
      · cases taken
      · rename_i any
        cases taken
        exact .brought n any
  | close =>
      simp only [step] at taken
      split at taken
      · rename_i ends
        obtain ⟨closed, drained, expecting⟩ := ends
        cases taken
        simpa only [Line.Inbox.finish, expecting] using Turn.closed closed drained expecting
      · cases taken
  | read =>
      simp only [step] at taken
      split at taken
      · rename_i waiting
        obtain ⟨⟨r, i⟩, read, same⟩ := Option.map_eq_some_iff.mp taken
        cases same
        exact .read waiting read
      · cases taken

/-! ## Looking at a conversation -/

/-- The command that an event is. -/
@[simp] def Event.command? : Event → Option String
  | .spoke command => some command
  | _ => none

/-- The reply that an event is. -/
@[simp] def Event.reply? : Event → Option Reply
  | .heard reply => some reply
  | _ => none

/-- What an event is to the session. -/
@[simp] def Event.session? : Event → Option Session.Event
  | .session e => some e
  | _ => none

/-- The commands, the oldest first. -/
def spoken (es : List Event) : List String := es.filterMap Event.command?

/-- The replies, the oldest first. -/
def replies (es : List Event) : List Reply := es.filterMap Event.reply?

/-- What has happened to the session. -/
def course (es : List Event) : List Session.Event := es.filterMap Event.session?

@[simp] theorem spoken_append (es fs : List Event) : spoken (es ++ fs) = spoken es ++ spoken fs :=
  List.filterMap_append

@[simp] theorem replies_append (es fs : List Event) :
    replies (es ++ fs) = replies es ++ replies fs := List.filterMap_append

@[simp] theorem course_append (es fs : List Event) : course (es ++ fs) = course es ++ course fs :=
  List.filterMap_append

@[simp] theorem spoken_nil : spoken [] = [] := rfl

@[simp] theorem replies_nil : replies [] = [] := rfl

@[simp] theorem course_nil : course [] = [] := rfl

@[simp] theorem spoken_cons (e : Event) (es : List Event) :
    spoken (e :: es) = e.command?.toList ++ spoken es := by
  cases command : e.command? <;> simp only [spoken, List.filterMap_cons, command] <;> rfl

@[simp] theorem replies_cons (e : Event) (es : List Event) :
    replies (e :: es) = e.reply?.toList ++ replies es := by
  cases reply : e.reply? <;> simp only [replies, List.filterMap_cons, reply] <;> rfl

@[simp] theorem course_cons (e : Event) (es : List Event) :
    course (e :: es) = e.session?.toList ++ course es := by
  cases session : e.session? <;> simp only [course, List.filterMap_cons, session] <;> rfl

@[simp] theorem spoken_session (es : List Session.Event) : spoken (es.map .session) = [] := by
  simp [spoken, List.filterMap_map, Function.comp_def]

@[simp] theorem replies_session (es : List Session.Event) : replies (es.map .session) = [] := by
  simp [replies, List.filterMap_map, Function.comp_def]

@[simp] theorem course_session (es : List Session.Event) : course (es.map .session) = es := by
  simp [course, List.filterMap_map, Function.comp_def]

/-- **What happens to the session is a course of it.** -/
theorem course_of_reaches {peer : String} {d : Dialogue α}
    (reached : Machine.Reaches step (start peer d) c es) :
    Session.Course peer c.session (course es) := by
  refine Machine.Reaches.project session Event.session? (fun taken => ?_) reached
  cases turn_of_step taken with
  | spoke | read | brought | closed => exact .refl
  | carried n any heard =>
      change Machine.Reaches _ _ _ (course _)
      rw [course_session]
      exact .single heard
  | served now active served =>
      change Machine.Reaches _ _ _ (course _)
      rw [course_session]
      exact .single served

/-! ## Every schedule comes to an end -/

/-- What a client comes to by speaking or by hearing a reply. -/
inductive Nearer : Stand α → Stand α → Prop where
  | spoke (command : String) (go : Reply → Dialogue α) :
      Nearer (.waiting go) (.ready (.ask command go))
  | heard (go : Reply → Dialogue α) (r : Reply) : Nearer (.ready (go r)) (.waiting go)

theorem acc_ready (d : Dialogue α) : Acc Nearer (.ready d) := by
  induction d with
  | done a => exact ⟨_, nofun⟩
  | ask command go ih =>
      refine ⟨_, fun s nearer => ?_⟩
      cases nearer
      refine ⟨_, fun s nearer => ?_⟩
      cases nearer with
      | heard _ r => exact ih r

theorem acc_nearer (s : Stand α) : Acc Nearer s := by
  cases s with
  | ready d => exact acc_ready d
  | waiting go => exact (acc_ready (.ask "" go)).inv (.spoke "" go)

/-- What can still happen before the client speaks or reads again: bytes are carried to the session,
the session takes turns, bytes and the end of the stream are brought to the client. -/
def between (c : Conversation α) : Nat × Nat × Nat :=
  (c.outgoing.length, c.session.rank,
    c.incoming.length + if c.inbox.outlook = .expecting then 1 else 0)

theorem receive_outlook (i : Line.Inbox) (bytes : List UInt8) :
    (i.receive bytes).outlook = i.outlook := by
  cases outlook : i.outlook <;> simp [Line.Inbox.receive, outlook]

theorem length_drop_lt {bytes : List UInt8} {n : Nat} (any : bytes.take n ≠ []) :
    (bytes.drop n).length < bytes.length := by
  have whole := congrArg List.length (List.take_append_drop n bytes)
  have positive := List.length_pos_iff.mpr any
  rw [List.length_append] at whole
  omega

/-- Every step brings the client nearer to the end of its dialogue, or it leaves less to happen
before the client's next step. -/
theorem nearer_of_turn (turn : Turn c l c' es) : Nearer c'.stand c.stand ∨
    c'.stand = c.stand ∧ Prod.Lex (· < ·) (Prod.Lex (· < ·) (· < ·)) c'.between c.between := by
  cases turn with
  | spoke ready => exact .inl (ready ▸ .spoke _ _)
  | read waiting => exact .inl (waiting ▸ .heard _ _)
  | carried n any => exact .inr ⟨rfl, .left _ _ (length_drop_lt any)⟩
  | served now active served =>
      exact .inr ⟨rfl, .right _ (.left _ _ (Session.rank_lt served))⟩
  | brought n any =>
      refine .inr ⟨rfl, .right _ (.right _ ?_)⟩
      rw [receive_outlook]
      exact Nat.add_lt_add_right (length_drop_lt any) _
  | closed _ _ expecting =>
      refine .inr ⟨rfl, .right _ (.right _ ?_)⟩
      simp [expecting]

/-- One conversation comes from another by a step. -/
def Follows (c' c : Conversation α) : Prop := ∃ l es, step c l = some (c', es)

/-- **Every schedule comes to an end**, whoever takes the next step at any time. -/
theorem acc_follows (c : Conversation α) : Acc Follows c := by
  have order : WellFounded (Prod.Lex (· < ·) (Prod.Lex (· < ·) (· < ·)) :
      Nat × Nat × Nat → Nat × Nat × Nat → Prop) :=
    (Prod.lex Nat.lt_wfRel (Prod.lex Nat.lt_wfRel Nat.lt_wfRel)).wf
  -- on the client's stand, and for the same stand on what can happen in between
  generalize stand : c.stand = s
  induction acc_nearer s generalizing c with
  | intro s _ further =>
      generalize between : c.between = b
      induction order.apply b generalizing c with
      | intro b _ before =>
          refine ⟨c, fun c' follows => ?_⟩
          obtain ⟨l, es, taken⟩ := follows
          rcases nearer_of_turn (turn_of_step taken) with nearer | ⟨same, less⟩
          · exact further _ (stand ▸ nearer) c' rfl
          · exact before _ (between ▸ less) c' (same.trans stand) rfl

end Conversation

end LineService.Client
