import LineService.Client.Basic
import LineService.Session

/-!
# A client linked to a session

Here a client's far end is a session that serves it: bytes the client writes arrive at the
session, which answers the lines that are complete, and what it sends arrives at the
client, all of it before the end of the stream.
-/

namespace LineService.Client

/-- A session, and the number of clients being served with it. -/
structure Server where
  session : Session
  active : Nat
  deriving DecidableEq, Repr

/-- The server that a client at this address meets while `others` are being served. -/
def Server.meet (peer : String) (others : Nat) : Server := ⟨.new peer, others⟩

/-- What a session has sent since it was in the state `before`. -/
def sentSince (before after : Session) : List UInt8 :=
  (after.sent.drop before.sent.length).flatMap Line.write

/-- A session hears bytes: it answers the lines they complete, at the time `now`. -/
def Server.hear (now : String) : FarEnd Server := fun s bytes =>
  let r := (s.session.receive bytes).settle now s.active
  (⟨r.1, r.2.1⟩, ⟨sentSince s.session r.1, !r.1.isOpen⟩)

end LineService.Client
