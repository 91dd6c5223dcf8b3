import LineService.Client.Basic

/-!
# Trying a service out

A trial connects to a service as its clients do and judges it by its replies.  What a trial
needs of a service is a `Site`: what becomes of every connection attempt, and how a
connection that was made replies to commands.  Nothing else is known about a site, so it
may treat every connection differently, answer wrongly, hang up, or fail.
-/

namespace LineService.Trial

/-- A service as trials see it, with connections in states `σ`. -/
structure Site (σ : Type) where
  /-- What becomes of the `n`-th attempt to connect. -/
  connect : (n : Nat) → Except Net.Fault σ
  /-- The reply to a command; none if there never is one. -/
  send : σ → String → Option (σ × Client.Reply)

/-- The site at which every attempt to connect comes to the same, and connections have
the given far end. -/
def Site.ofFarEnd {σ : Type} (attempt : Except Net.Fault σ) (hear : Client.FarEnd σ) :
    Site (Client σ) where
  connect _ := attempt.map .ofFar
  send := Client.send hear

/-- The trials there are. -/
inductive Kind where
  | conformance
  | load
  deriving DecidableEq, Repr

/-- The endpoint that is tried where none is named. -/
def standardAuthority : String := "127.0.0.1:8080"

/-- Which trial the arguments name, if they name one, and the endpoint to try. -/
def readArguments (arguments : List String) : Option Kind × String :=
  let kind := match arguments.head? with
    | some "check" => some .conformance
    | some "load" => some .load
    | _ => none
  (kind, arguments[1]?.getD standardAuthority)

/-- How trials are used. -/
def usage : String :=
  "Pass 'check' or 'load' on the command line, optionally followed by host:port"

/-- What a trial found: the lines it prints, and whether the service passed. -/
structure Report where
  lines : List String
  passed : Bool
  deriving DecidableEq, Repr

end LineService.Trial
