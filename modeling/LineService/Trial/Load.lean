import LineService.Request
import LineService.Trial.Basic

/-!
# The load test

Many clients connect at once, and each asks for a number of echoes over its connection, one
at a time, with payloads that no two requests share.  A request has failed unless it got
its own payload back.  A client whose connection is lost does not try again: the request at
which it was lost and all requests after it have failed.  So has every request of a client
that never got a connection.

Clients do not know of each other.  The number of failures of the whole test is the sum of
those of its clients, in whatever order they finish.
-/

namespace LineService.Trial

/-- How many clients take part. -/
def clientCount : Nat := 20

/-- How many requests each of them makes. -/
def requestsPerClient : Nat := 10

/-- How many requests there are. -/
def requestCount : Nat := clientCount * requestsPerClient

/-- Sixteen hexadecimal digits. -/
def hexDigits (n : UInt64) : String :=
  String.ofList ((Nat.toDigits 16 n.toNat).leftpad 16 '0')

/-- The payload of a client's request, made unlike all others by its numbers and by
`noise`. -/
def payload (client sequence : Nat) (noise : UInt64) : String :=
  "client-" ++ toString client ++ "-" ++ toString sequence ++ "-" ++ hexDigits noise

/-! ## Counting -/

/-- A sum of counts; there is none beyond 64 bits. -/
def sum? (a b : Nat) : Option Nat := if a + b < UInt64.size then some (a + b) else none

/-- A difference of counts; there is none below zero. -/
def difference? (a b : Nat) : Option Nat := if b ≤ a then some (a - b) else none

/-- How many requests of a client have failed that loses its connection at request number
`sequence`, when `failed` requests before that one have failed. -/
def failedAtLoss (sequence failed : Nat) : Option Nat :=
  (sum? failed requestsPerClient).bind (difference? · sequence)

/-- What a client found. -/
structure Finding where
  /-- How many of its requests failed; none if counting them brought the client down. -/
  failed : Option Nat
  records : List Journal.Record
  deriving DecidableEq, Repr

/-- What a finding adds to the failures of the test.  A client that was brought down is taken
for one all of whose requests failed. -/
def Finding.cost (f : Finding) : Nat := f.failed.getD requestsPerClient

/-! ## What a client does -/

/-- A record of the load test. -/
def loadRecord (level : Journal.Level) (text : String) : Journal.Record :=
  ⟨level, "Load: " ++ text⟩

/-- Reports a reply that is not the payload. -/
def wrongEcho (client : Nat) (sent got : String) : Journal.Record :=
  loadRecord .debug
    ("Client " ++ toString client ++ " sent '" ++ sent ++ "' but got '" ++ got ++ "'")

/-- Reports that the connection of a client was closed. -/
def closedOn (client : Nat) : Journal.Record :=
  loadRecord .error ("Server closed the connection of client " ++ toString client)

/-- Reports that a request came to nothing. -/
def requestFailed (client : Nat) (t : Line.Trouble) : Journal.Record :=
  loadRecord .error ("Client " ++ toString client ++ " request failed: " ++ t.message)

/-- Reports that a client got no connection. -/
def unconnected (client : Nat) (authority : String) (f : Net.Fault) : Journal.Record :=
  loadRecord .error ("Client " ++ toString client ++ " failed to connect to " ++ authority ++
    ": " ++ f.message)

/-- A client asks for echoes of payloads (`send_echoes`), the first of them being its request
number `sequence`, when `failed` requests before that one have failed. -/
def echoes (client : Nat) : (sequence failed : Nat) → List String → Client.Dialogue Finding
  | _, failed, [] => .done ⟨some failed, []⟩
  | sequence, failed, p :: rest => .ask (Request.echo p).wire fun
    | .line text =>
      if text = p then echoes client (sequence + 1) failed rest
      else match sum? failed 1 with
        | none => .done ⟨none, [wrongEcho client p text]⟩
        | some failed => do
          let f ← echoes client (sequence + 1) failed rest
          return ⟨f.failed, wrongEcho client p text :: f.records⟩
    | .closed => .done ⟨failedAtLoss sequence failed, [closedOn client]⟩
    | .trouble t => .done ⟨failedAtLoss sequence failed, [requestFailed client t]⟩

/-- The payloads of a client. -/
def payloads (noise : Nat → Nat → UInt64) (client : Nat) : List String :=
  (List.range requestsPerClient).map fun n => payload client n (noise client n)

/-- What a client finds that got no connection. -/
def unreached (client : Nat) (authority : String) (f : Net.Fault) : Finding :=
  ⟨some requestsPerClient, [unconnected client authority f]⟩

/-- What a client does once it has tried to connect. -/
def course (authority : String) (noise : Nat → Nat → UInt64) (client : Nat) :
    Except Net.Fault Unit → Client.Dialogue Finding
  | .ok () => echoes client 0 0 (payloads noise client)
  | .error f => .done (unreached client authority f)

/-- What client `client` finds; clients count from one. -/
def Site.load {σ : Type} (site : Site σ) (authority : String) (noise : Nat → Nat → UInt64)
    (client : Nat) : Option Finding :=
  match site.connect (client - 1) with
  | .error f => some (unreached client authority f)
  | .ok connection =>
    (Client.Dialogue.run site.send connection
      (echoes client 0 0 (payloads noise client))).map (·.2)

/-! ## The whole test -/

/-- The number of failures of a whole test. -/
def totalFailed (findings : List Finding) : Nat := (findings.map (·.cost)).foldr (· + ·) 0

/-- The report of a test with `failed` failures that took the time `elapsed` and handled
`throughput` requests a second: what its `run_test` prints and returns at the end. -/
def summary (elapsed throughput : String) (failed : Nat) : Report :=
  ⟨["Elapsed: " ++ elapsed ++ " sending " ++ toString requestCount ++ " requests from " ++
      toString clientCount ++ " clients",
    "Average throughput " ++ throughput ++ " requests/sec",
    toString failed ++ " of " ++ toString requestCount ++ " requests failed"],
    failed == 0⟩

/-- The report of a test in which the clients found this. -/
def loadReport (elapsed throughput : String) (findings : List Finding) : Report :=
  summary elapsed throughput (totalFailed findings)

/-- The findings of all clients; none if one of them is left waiting. -/
def runLoad {σ : Type} (site : Site σ) (authority : String) (noise : Nat → Nat → UInt64) :
    Option (List Finding) :=
  (List.range clientCount).mapM fun n => site.load authority noise (n + 1)

end LineService.Trial
