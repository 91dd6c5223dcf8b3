import LineService.Client.Dialogue
import LineService.Journal.Record
import LineService.Line.Inbox

/-!
# Clients

A client holds one end of a connection.  `send` puts a line on the wire and then reads the
next line that comes back, be it the answer to this command or to an earlier one: a command
that contains line feeds asks for several answers, and those nobody has read yet are read
by the sends that follow.

The far end is any function from the bytes it hears to what it sends back.  `exchange` is
what a client does with a list of commands: it sends one after the other and keeps the
replies, until there is no reply.
-/

namespace LineService

namespace Client

/-- What comes back from the far end of a connection. -/
structure Arrival where
  bytes : List UInt8
  /-- The far end has closed the connection behind these bytes. -/
  closed : Bool
  deriving DecidableEq, Repr

/-- What the far end of a connection does when bytes reach it, in states `σ`. -/
abbrev FarEnd (σ : Type) := σ → List UInt8 → σ × Arrival

end Client

/-- The near end of a connection, and the state of the far end. -/
structure Client (σ : Type) where
  far : σ
  inbox : Line.Inbox
  deriving DecidableEq, Repr

namespace Client

variable {σ : Type}

/-- A client that has just been connected. -/
def ofFar (far : σ) : Client σ := ⟨far, .empty⟩

/-- What comes back arrives in the inbox. -/
def arrive (inbox : Line.Inbox) (a : Arrival) : Line.Inbox :=
  if a.closed then (inbox.receive a.bytes).finish else inbox.receive a.bytes

/-- Sends one command and reads the next line: the client's `send`, none while there is nothing
to read. -/
def send (hear : FarEnd σ) (c : Client σ) (command : String) : Option (Client σ × Reply) :=
  let heard := hear c.far (Line.write command)
  (arrive c.inbox heard.2).read?.map fun r => (⟨heard.1, r.2⟩, .ofReading r.1)

/-! ## A list of commands -/

/-- How an exchange came to its end. -/
inductive Ending where
  /-- There was a reply to every command. -/
  | answered
  /-- The other side closed the connection. -/
  | hungUp
  | failed (t : Line.Trouble)
  deriving DecidableEq, Repr

/-- Sends commands in turn and collects the replies, as long as there are any: the client program's
`run_commands`. -/
def exchange : List String → Dialogue (List String × Ending)
  | [] => .done ([], .answered)
  | command :: rest => .ask command fun
    | .line text => do
      let r ← exchange rest
      return (text :: r.1, r.2)
    | .closed => .done ([], .hungUp)
    | .trouble t => .done ([], .failed t)

/-! ## What clients report -/

/-- Reports that a connection was made. -/
def connectedRecord (authority : String) : Journal.Record :=
  ⟨.info, "Client: Connected to " ++ authority⟩

/-- Reports that a connection was given up. -/
def disconnectedRecord (authority : String) : Journal.Record :=
  ⟨.info, "Client: Disconnected from " ++ authority⟩

/-- Reports that no connection could be made. -/
def connectFailed (authority : String) (f : Net.Fault) : Journal.Record :=
  ⟨.error, "Failed to connect to " ++ authority ++ ": " ++ f.message⟩

/-- Reports that a connection was of no use any more. -/
def connectionFailed (authority : String) (t : Line.Trouble) : Journal.Record :=
  ⟨.error, "Connection to " ++ authority ++ " failed: " ++ t.message⟩

/-- What an ending makes the client report. -/
def Ending.record? (authority : String) : Ending → Option Journal.Record
  | .answered | .hungUp => none
  | .failed t => some (connectionFailed authority t)

end Client

end LineService
