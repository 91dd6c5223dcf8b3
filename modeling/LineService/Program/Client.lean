import LineService.Client.Basic
import LineService.Client.Options
import LineService.Program.Basic

/-!
# The client's program

The program connects where its arguments say, sends the commands they name, or else those
of its input, and prints the replies.  It ends early, and content, when the other side
hangs up.
-/

namespace LineService.Program

/-- Ends for the arguments' sake. -/
def clientMisused (e : Client.UsageError) : Transcript :=
  ⟨"", printed (e.message :: Client.usage), 2⟩

/-- Ends because there is no connection. -/
def clientUnconnected (authority : String) (f : Net.Fault) : Transcript :=
  ⟨"", (Client.connectFailed authority f).shown, 1⟩

/-- The commands to send. -/
def clientCommands (o : Client.Options) (input : List UInt8) : List String :=
  if o.commands = [] then inputLines input else o.commands

/-- Ends with the replies to an exchange. -/
def clientEnded (authority : String) (replies : List String) (e : Client.Ending) : Transcript :=
  match e.record? authority with
  | none => ⟨printed replies, "", 0⟩
  | some r => ⟨printed replies, r.shown, 1⟩

/-- The whole program, where `connect` says what becomes of an attempt to connect; none if
it is left waiting. -/
def client {σ : Type} (connect : (authority : String) → Except Net.Fault σ)
    (hear : Client.FarEnd σ) (arguments : List String) (input : List UInt8) :
    Option Transcript :=
  match Client.Options.read arguments with
  | .error e => some (clientMisused e)
  | .ok o =>
    match connect o.authority with
    | .error f => some (clientUnconnected o.authority f)
    | .ok far =>
      ((Client.exchange (clientCommands o input)).run (Client.send hear) (.ofFar far)).map
        fun r => clientEnded o.authority r.2.1 r.2.2

end LineService.Program
