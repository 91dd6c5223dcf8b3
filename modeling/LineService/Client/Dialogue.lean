import LineService.Line.Basic

/-!
# Dialogues

Whoever has a connection to a service sends one command, waits for the reply, and decides
by the reply how to go on.  A `Dialogue` is such a course of action with nothing said about
who replies: it has come to an end with a result, or it asks and has a continuation for
every reply.  `Dialogue.run` plays it against a correspondent, which is any function that
takes commands and keeps a state.
-/

namespace LineService.Client

/-- What comes of waiting for a reply. -/
inductive Reply where
  | line (text : String)
  /-- The other side closed the connection instead. -/
  | closed
  | trouble (t : Line.Trouble)
  deriving DecidableEq, Repr

/-- The reply that the outcome of reading a line is. -/
def Reply.ofReading : Line.Reading → Reply
  | .line text _ => .line text
  | .finished => .closed
  | .trouble t => .trouble t

/-- Commands that are sent one after the other, each depending on the replies before it. -/
inductive Dialogue (α : Type) where
  | done (result : α)
  | ask (command : String) (go : Reply → Dialogue α)

namespace Dialogue

variable {α β : Type}

/-- Goes on with another dialogue once one has come to its end. -/
def bind : Dialogue α → (α → Dialogue β) → Dialogue β
  | .done a, f => f a
  | .ask command go, f => .ask command fun r => (go r).bind f

instance : Monad Dialogue where
  pure := .done
  bind := bind

/-- Plays a dialogue against a correspondent; none if the correspondent lets a command wait
for ever.  The state of the correspondent at the end comes with the result. -/
def run {σ : Type} (send : σ → String → Option (σ × Reply)) :
    σ → Dialogue α → Option (σ × α)
  | s, .done a => some (s, a)
  | s, .ask command go =>
    match send s command with
    | none => none
    | some (t, reply) => run send t (go reply)

end Dialogue

end LineService.Client
