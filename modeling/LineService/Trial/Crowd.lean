import LineService.Machine
import LineService.Trial.Load

/-!
# The crowd of a load test

The clients of a load test are at work at the same time.  Each of them, a member of the crowd,
tries to connect and then waits at a gate until all others have tried too.  Then it makes its
requests, adds its failures to a total that all of them share, and is gone.  Adding is one step,
so that no two additions get in each other's way.  A member that was brought down by its own
counting adds nothing.

The host starts the members one after the other and comes to the gate itself.  Then it waits for
the members to go, in the order in which it started them, and adds all requests of those that were
brought down.  When all have gone it reads the total and reports it.  If a member cannot be
started, the host gives the test up, and the members stay at the gate.
-/

namespace LineService.Trial

/-! ## One member -/

/-- How far a member of the crowd has come. -/
inductive Member where
  | connecting
  /-- It waits at the gate, with what its attempt to connect has come to. -/
  | waiting (attempt : Except Net.Fault Unit)
  | asking (d : Client.Dialogue Finding)
  | gone (f : Finding)

namespace Member

/-- The steps of a member. -/
inductive Label where
  | connect (attempt : Except Net.Fault Unit)
  /-- It passes the gate. -/
  | enter
  /-- It sends its next command and gets this reply. -/
  | exchange (reply : Client.Reply)
  | leave

/-- What a step of a member comes to. -/
inductive Event where
  | tried (attempt : Except Net.Fault Unit)
  | entered
  | exchanged (command : String) (reply : Client.Reply)
  | left (f : Finding)

/-- The steps of client `client`. -/
def step (authority : String) (noise : Nat → Nat → UInt64) (client : Nat) :
    Machine.Step Member Label Event
  | .connecting, .connect attempt => some (.waiting attempt, [.tried attempt])
  | .waiting attempt, .enter =>
    some (.asking (course authority noise client attempt), [.entered])
  | .asking (.ask command go), .exchange reply =>
    some (.asking (go reply), [.exchanged command reply])
  | .asking (.done f), .leave => some (.gone f, [.left f])
  | _, _ => none

/-- The member has come to the gate. -/
def hasCome : Member → Bool
  | .connecting => false
  | _ => true

/-- What a step of a member adds to the total. -/
def Event.added : Event → Nat
  | .left f => f.failed.getD 0
  | _ => 0

end Member

/-! ## The whole crowd -/

namespace Crowd

/-- How far the host has come. -/
inductive Stage where
  | starting
  /-- It waits at the gate. -/
  | gathered
  /-- Members before `k` have gone. -/
  | joining (k : Nat)
  | ended (r : Report)
  /-- A member could not be started. -/
  | givenUp
  deriving DecidableEq, Repr

end Crowd

/-- The host of a load test, the members started so far, and the total of their failures. -/
structure Crowd where
  stage : Crowd.Stage
  members : List Member
  failures : UInt64

namespace Crowd

/-- Nobody has been started. -/
def empty : Crowd := ⟨.starting, [], 0⟩

/-- Who takes the next step. -/
inductive Label where
  /-- The host starts the next member, or fails to. -/
  | start (result : Except Net.Fault Unit)
  | member (k : Nat) (l : Member.Label)
  /-- The host comes to the gate, passes it, or sees the next member gone. -/
  | proceed
  /-- The host reports the total, and what it has measured. -/
  | report (elapsed throughput : String)

/-- What a step comes to. -/
inductive Event where
  | started (k : Nat)
  | notStarted (f : Net.Fault)
  | member (k : Nat) (e : Member.Event)
  | gathered
  | opened
  | joined (k : Nat) (f : Finding)
  | reported (r : Report)

/-- The gate opens when all members and the host have come. -/
def gateOpen (c : Crowd) : Bool :=
  c.stage != .starting && c.members.length == clientCount && c.members.all Member.hasCome

/-- Nobody passes the gate before it is open. -/
def admits (c : Crowd) : Member.Label → Bool
  | .enter => c.gateOpen
  | _ => true

/-- What a step adds to the total: the host adds all requests of a member that was brought
down. -/
def Event.added : Event → Nat
  | .member _ e => e.added
  | .joined _ f => if f.failed = none then requestsPerClient else 0
  | _ => 0

/-- The total when the events have been counted in. -/
def count (failures : UInt64) (es : List Event) : UInt64 :=
  es.foldl (fun n e => n + UInt64.ofNat e.added) failures

/-- The next step of the host between starting the members and reporting. -/
def proceed (c : Crowd) : Option (Crowd × List Event) :=
  match c.stage with
  | .starting =>
    if c.members.length = clientCount then some ({ c with stage := .gathered }, [.gathered])
    else none
  | .gathered =>
    if c.gateOpen then some ({ c with stage := .joining 0 }, [.opened]) else none
  | .joining k =>
    match c.members[k]? with
    | some (.gone f) =>
      some ({ c with
        stage := .joining (k + 1), failures := count c.failures [.joined k f] }, [.joined k f])
    | _ => none
  | .ended _ | .givenUp => none

/-- The steps of a crowd: the load test's `run_test` and the threads it starts.  Clients count from
one. -/
def step (authority : String) (noise : Nat → Nat → UInt64) : Machine.Step Crowd Label Event :=
  fun c l =>
  match l with
  | .start result =>
    if c.stage = .starting ∧ c.members.length < clientCount then
      match result with
      | .ok () =>
        some ({ c with members := c.members ++ [.connecting] }, [.started c.members.length])
      | .error f => some ({ c with stage := .givenUp }, [.notStarted f])
    else none
  | .member k l =>
    match c.members[k]? with
    | none => none
    | some m =>
      if c.admits l then
        (m.step authority noise (k + 1) l).map fun r =>
          let es := r.2.map (Event.member k)
          ({ c with members := c.members.set k r.1, failures := count c.failures es }, es)
      else none
  | .proceed => c.proceed
  | .report elapsed throughput =>
    match c.stage with
    | .joining k =>
      if k = c.members.length then
        let r := summary elapsed throughput c.failures.toNat
        some ({ c with stage := .ended r }, [.reported r])
      else none
    | _ => none

/-- Whether the service passed, once that is known. -/
def verdict? (c : Crowd) : Option Bool :=
  match c.stage with
  | .ended r => some r.passed
  | .givenUp => some false
  | _ => none

/-! ## What a crowd reports -/

/-- Reports that a member could not be started. -/
def notStartedRecord (f : Net.Fault) : Journal.Record :=
  loadRecord .error ("Failed to start client thread: " ++ f.message)

/-- What is reported of an event. -/
def Event.records : Event → List Journal.Record
  | .notStarted f => [notStartedRecord f]
  | .member _ (.left f) => f.records
  | _ => []

end Crowd

end LineService.Trial
