import LineService.Moment
import LineService.Request
import LineService.Text.Numeral
import LineService.Trial.Basic

/-!
# The conformance check

The check goes through a list of scenarios, each over a connection of its own.  A scenario
is a dialogue that ends well or with the first thing that was wrong; one that fails does
not keep the others from being tried.
-/

namespace LineService.Trial

/-- What was wrong. -/
inductive Failure where
  | unconnected (f : Net.Fault)
  | closedAfter (command : String)
  | broken (command : String) (t : Line.Trouble)
  | unexpected (command reply expected : String)
  | notMoment (reply : String) (f : Moment.Fault)
  | notCount (reply : String)
  /-- The service claims to serve nobody. -/
  | uncounted (count : Nat)
  | stillOpen (reply : String)
  deriving DecidableEq, Repr

/-- The words that report it. -/
def Failure.message : Failure → String
  | .unconnected f => "failed to connect: " ++ f.message
  | .closedAfter command => "server closed the connection after " ++ command
  | .broken command t => command ++ " failed: " ++ t.message
  | .unexpected command reply expected =>
    command ++ " returned '" ++ reply ++ "', expected '" ++ expected ++ "'"
  | .notMoment reply f => "'" ++ reply ++ "' is not a time: " ++ f.message
  | .notCount reply => "'" ++ reply ++ "' is not a client count"
  | .uncounted count => "reported " ++ toString count ++ " clients while connected"
  | .stillOpen reply => "connection still open, got '" ++ reply ++ "'"

/-- A dialogue that may end with a failure. -/
abbrev Course := ExceptT Failure Client.Dialogue

/-- The line that answers a command. -/
def request (command : String) : Course String := ExceptT.mk <|
  .ask command fun
    | .line text => .done (.ok text)
    | .closed => .done (.error (.closedAfter command))
    | .trouble t => .done (.error (.broken command t))

/-- A command that has to be answered by a certain line: the check's `expect_reply`. -/
def expectReply (command expected : String) : Course Unit := do
  let reply ← request command
  if reply = expected then return else throw (.unexpected command reply expected)

/-- The time has to be told in a form that can be read. -/
def expectMoment : Course Unit := do
  let reply ← request Request.time.wire
  match Moment.read reply with
  | .ok _ => return
  | .error f => throw (.notMoment reply f)

/-- At least this client has to be counted. -/
def expectCount : Course Unit := do
  let reply ← request Request.stats.wire
  match (Text.after? Response.statsOpening reply).bind (Numeral.natural? (UInt64.size - 1)) with
  | none => throw (.notCount reply)
  | some count => if 1 ≤ count then return else throw (.uncounted count)

/-- There must be no reply any more, for whatever reason. -/
def expectSilence : Course Unit := ExceptT.mk <|
  .ask Request.ping.wire fun
    | .line text => .done (.error (.stillOpen text))
    | .closed | .trouble _ => .done (.ok ())

/-- One thing that is tried over one connection. -/
structure Scenario where
  name : String
  course : Course Unit

/-- Everything that is tried. -/
def scenarios : List Scenario := [
  ⟨"PING returns PONG", expectReply Request.ping.wire Response.pong⟩,
  ⟨"TIME returns local time", expectMoment⟩,
  ⟨"ECHO returns its message", do
    expectReply (Request.echo "Hello World").wire "Hello World"
    expectReply (Request.echo "").wire ""⟩,
  ⟨"STATS counts this client", expectCount⟩,
  ⟨"QUIT says goodbye and closes", do
    expectReply Request.quit.wire Response.goodbye
    expectSilence⟩,
  ⟨"Unknown command keeps the connection", do
    expectReply "INVALID" Response.unknownCommand
    expectReply "ping" Response.unknownCommand
    expectReply Request.ping.wire Response.pong⟩,
  ⟨"Connection persists across commands", do
    expectReply Request.ping.wire Response.pong
    expectReply (Request.echo "Test").wire "Test"
    let _ ← request Request.time.wire
    let _ ← request Request.stats.wire
    expectReply Request.quit.wire Response.goodbye⟩]

/-! ## Going through the scenarios -/

/-- What came of a scenario. -/
structure Verdict where
  name : String
  result : Except Failure Unit

/-- Whether a scenario ended well. -/
def Verdict.passed (v : Verdict) : Bool :=
  match v.result with
  | .ok _ => true
  | .error _ => false

/-- The line that reports a verdict. -/
def Verdict.line (v : Verdict) : String :=
  match v.result with
  | .ok () => "PASS  " ++ v.name
  | .error failure => "FAIL  " ++ v.name ++ ": " ++ failure.message

/-- Tries one scenario over the `n`-th connection. -/
def Scenario.attempt {σ : Type} (site : Site σ) (s : Scenario) (n : Nat) : Option Verdict :=
  match site.connect n with
  | .error f => some ⟨s.name, .error (.unconnected f)⟩
  | .ok connection =>
    (Client.Dialogue.run site.send connection s.course.run).map fun r => ⟨s.name, r.2⟩

/-- The report of a check of the service at `authority`. -/
def conformanceReport (authority : String) (verdicts : List Verdict) : Report :=
  let failures := (verdicts.filter fun v => !v.passed).length
  let summary := toString (verdicts.length - failures) ++ " passed, " ++ toString failures ++
    " failed against " ++ authority
  ⟨verdicts.map Verdict.line ++ [summary], failures == 0⟩

/-- Checks a service, as the check's `run_test` does; none if it lets a command wait for ever. -/
def checkConformance {σ : Type} (site : Site σ) (authority : String) : Option Report :=
  (scenarios.zipIdx.mapM fun (s : Scenario × Nat) => s.1.attempt site s.2).map
    (conformanceReport authority)

end LineService.Trial
