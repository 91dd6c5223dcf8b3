import LineService.Program.Client
import LineService.Program.Trial
import LineService.Shell.Sockets

/-!
# The client and the trials at work

Both programs play dialogues of the library over connections of the system, and print what
the library makes of the replies.
-/

namespace LineService.Shell

open Std.Async

/-- Prints what a program leaves behind. -/
def present (t : Program.Transcript) : IO UInt32 := do
  IO.print t.output
  IO.eprint t.errors
  return t.status

/-- Sends the commands of the input as they come. -/
partial def relay (authority : String) (c : Connection) (inbox : Line.Inbox)
    (input : IO.FS.Stream) : IO UInt32 := do
  match Program.inputLines (Utf8.encode (← input.getLine)) with
  | [] => return 0
  | command :: _ =>
    let r ← (converse c inbox (Client.exchange [command])).block
    let shown ← present (Program.clientEnded authority r.1.1 r.1.2)
    match r.1.2 with
    | .answered => relay authority c r.2 input
    | _ => return shown

/-- Runs the client. -/
def runClient (arguments : List String) : IO UInt32 := do
  match Client.Options.read arguments with
  | .error e => present (Program.clientMisused e)
  | .ok o =>
    match ← (connect o.authority).block with
    | .error f => present (Program.clientUnconnected o.authority f)
    | .ok c =>
      if o.commands = [] then relay o.authority c .empty (← IO.getStdin)
      else
        let r ← (converse c .empty (Client.exchange o.commands)).block
        present (Program.clientEnded o.authority r.1.1 r.1.2)

/-- Tries one scenario. -/
def tryScenario (authority : String) (s : Trial.Scenario) : IO Trial.Verdict := do
  match ← (connect authority).block with
  | .error f => return ⟨s.name, .error (.unconnected f)⟩
  | .ok c =>
    let r ← (converse c .empty s.course.run).block
    (hangUp c).block
    return ⟨s.name, r.1⟩

/-- One client of the load test, once it has a connection or none. -/
def tryLoad (authority : String) (noise : Nat → Nat → UInt64) (client : Nat)
    (attempt : Except Net.Fault Connection) : Async Trial.Finding := do
  match attempt with
  | .error f => return Trial.unreached client authority f
  | .ok c =>
    let r ← converse c .empty (Trial.echoes client 0 0 (Trial.payloads noise client))
    hangUp c
    return r.1

/-- Runs the load test. -/
def runLoad (authority : String) : IO Program.Transcript := do
  let seed ← IO.rand 0 (UInt32.size - 1)
  let noise (client sequence : Nat) : UInt64 := UInt64.ofNat ((seed * 32 + client) * 16 + sequence)
  let attempts ← (List.range Trial.clientCount).mapM fun _ => (connect authority).block
  let start ← IO.monoNanosNow
  let tasks ← attempts.zipIdx.mapM fun (a, n) => (tryLoad authority noise (n + 1) a).toIO
  let findings ← tasks.mapM fun t => t.block
  let nanos := (← IO.monoNanosNow) - start
  let report := Trial.loadReport (toString (nanos / 1000000) ++ "ms")
    (toString (Trial.requestCount * 1000000000 / (nanos + 1))) findings
  return Program.trialEnded report (findings.flatMap (·.records))

/-- Runs a trial. -/
def runTrial (arguments : List String) : IO UInt32 := do
  match Trial.readArguments arguments with
  | (none, _) => present ⟨Program.printed [Trial.usage], "", 0⟩
  | (some .conformance, authority) =>
    let verdicts ← Trial.scenarios.mapM (tryScenario authority)
    present (Program.trialEnded (Trial.conformanceReport authority verdicts) [])
  | (some .load, authority) => do present (← runLoad authority)

end LineService.Shell
