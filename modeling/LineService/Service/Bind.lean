import LineService.Crew.Settle
import LineService.Settings.Basic

/-!
# Getting ready to serve

A server founds its crew first and listens on its port afterwards.  If it cannot listen,
the crew is shut down again before the error is reported.  The same happens to the crew
of a server that is given up without having served.
-/

namespace LineService.Service

/-- Why a server is not ready to serve. -/
inductive BindError where
  | crew (e : Crew.FoundingError)
  | listen (port : UInt16) (fault : Net.Fault)
  deriving DecidableEq, Repr

/-- The sentence that reports that a port cannot be listened on. -/
def listenMessage (port : Nat) (reason : String) : String :=
  "failed to listen on port " ++ toString port ++ ": " ++ reason

/-- The sentence that reports the error. -/
def BindError.message : BindError → String
  | .crew e => e.message
  | .listen port fault => listenMessage port.toNat fault.message

/-- A record about the server as a whole. -/
def serverRecord (text : String) : Journal.Record := ⟨.info, "Server: " ++ text⟩

/-- A server that is ready to serve. -/
structure Bound (α : Type) where
  crew : Crew α
  /-- The port it listens on, also where the choice was the system's. -/
  port : UInt16

/-- What getting ready to serve comes to. -/
structure Binding (α : Type) where
  result : Except BindError (Bound α)
  /-- The crew as it is left, also where getting ready has failed. -/
  left : Option (Crew α)
  /-- What happened to the crew. -/
  events : List (Crew.Event α)

/-- Gets ready to serve: the server's `bind`.  `spawner` says of every worker whether it can be
started, and `listening` what listening on the wanted port comes to. -/
def bind {α : Type} (settings : Settings) (spawner : Nat → Except Net.Fault Unit)
    (listening : Except Net.Fault UInt16) : Binding α :=
  let founding : Crew.Founding α := Crew.found settings.workers.toNat spawner
  match founding.result with
  | .error e => ⟨.error (.crew e), founding.left, founding.events⟩
  | .ok crew =>
    match listening with
    | .error fault =>
      let closed := crew.shutDown 0
      ⟨.error (.listen settings.port fault), some closed.1, founding.events ++ closed.2⟩
    | .ok port => ⟨.ok ⟨crew, port⟩, some crew, founding.events⟩

/-- What getting ready to serve makes the server report, where `report` says what is
reported of the crew. -/
def Binding.records {α : Type} (b : Binding α) (report : Crew.Event α → List Journal.Record) :
    List Journal.Record :=
  b.events.flatMap report ++
    match b.result with
    | .ok bound => [serverRecord ("Listening on port " ++ toString bound.port.toNat)]
    | .error _ => []

/-- Gives up a server that has not served: its worker pool is dropped, and so shut down. -/
def Bound.abandon {α : Type} (b : Bound α) : Crew α × List (Crew.Event α) := b.crew.shutDown 0

end LineService.Service
