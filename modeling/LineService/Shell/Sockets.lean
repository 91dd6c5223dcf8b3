import LineService.Client.Dialogue
import LineService.Line.Inbox
import LineService.Moment
import LineService.Net.Endpoint
import Std.Async.DNS
import Std.Async.TCP
import Std.Time.Zoned

/-!
# Sockets and the clock

This is where the library meets the system: connections are made, bytes are sent and
received, and the time is told.  Nothing is decided here.
-/

namespace LineService.Shell

open Std.Async

/-- A connection of the system. -/
abbrev Connection := TCP.Socket.Client

/-- The text of the clock. -/
def clock : IO String := do
  let t ← Std.Time.PlainDateTime.now
  return Moment.write ⟨t.date.year, t.date.month.val.toNat, t.date.day.val.toNat,
    t.time.hour.val.toNat, t.time.minute.val.toNat, t.time.second.val.toNat⟩

/-- The number of a failure, which some parts of the system give with a minus sign. -/
def failureNumber (code : UInt32) : Nat := code.toInt32.toInt.natAbs

/-- The number and the words of a failure of the system. -/
def systemFailure? : IO.Error → Option (Nat × String)
  | .noSuchThing _ code details | .resourceVanished code details | .resourceBusy code details
  | .permissionDenied _ code details | .noFileOrDirectory _ code details
  | .inappropriateType _ code details | .invalidArgument _ code details
  | .otherError code details => some (failureNumber code, details)
  | _ => none

/-- The fault that a failure of the network is. -/
def faultOf (e : IO.Error) : Net.Fault :=
  match systemFailure? e with
  | some (code, details) => (Net.Fault.ofNumber? code).getD (.other (Net.numbered details code))
  | none => .other (toString e)

/-- An address of the system. -/
def addressOf : Std.Net.SocketAddress → Net.Address
  | .v4 a => ⟨.v4 a.addr.octets[0] a.addr.octets[1] a.addr.octets[2] a.addr.octets[3], 0, a.port⟩
  | .v6 a => ⟨.v6 a.addr.segments, 0, a.port⟩

/-- An address for the system. -/
def systemAddress (a : Net.Address) : Std.Net.SocketAddress :=
  match a.ip with
  | .v4 w x y z => .v4 ⟨.ofParts w x y z, a.port⟩
  | .v6 groups => .v6 ⟨⟨groups⟩, a.port⟩

/-- An address that the system has found for a host. -/
def foundAddress (ip : Std.Net.IPAddr) (port : UInt16) : Net.Address :=
  match ip with
  | .v4 i => addressOf (.v4 ⟨i, port⟩)
  | .v6 i => addressOf (.v6 ⟨i, port⟩)

/-- The addresses of an endpoint; a name that not every machine knows is looked up. -/
def lookUp (e : Net.Endpoint) : Async (Except Net.Fault (List Net.Address)) := do
  match e, e.addresses with
  | .named host port, .error .unansweredHost =>
    try
      let ips ← DNS.getAddrInfo host (toString port.toNat)
      return .ok (ips.toList.map (foundAddress · port))
    catch _ => return .error .unansweredHost
  | _, known => return known

/-- Tries to connect to an address. -/
def connectTo (a : Net.Address) : Async (Except Net.Fault Connection) := do
  try
    let c ← TCP.Socket.Client.mk
    c.connect (systemAddress a)
    return .ok c
  catch e => return .error (faultOf e)

/-- Connects to an endpoint. -/
def connect (authority : String) : Async (Except Net.Fault Connection) := do
  match Net.Endpoint.read authority with
  | .error f => return .error f
  | .ok e =>
    match ← lookUp e with
    | .error f => return .error f
    | .ok addresses => Net.connectAny connectTo .unknownHost addresses

/-- Bytes as the system sends them. -/
def packet (bytes : List UInt8) : ByteArray := ⟨bytes.toArray⟩

/-- The greatest number of bytes received at once. -/
def packetSize : UInt64 := 4096

/-- What next arrives from the other side. -/
def listenOnce (c : Connection) (inbox : Line.Inbox) : Async Line.Inbox := do
  try
    match ← c.recv? packetSize with
    | some bytes => return inbox.receive bytes.toList
    | none => return inbox.finish
  catch e => return inbox.sever (faultOf e)

/-- Waits for a line. -/
partial def readLine (c : Connection) (inbox : Line.Inbox) :
    Async (Line.Reading × Line.Inbox) := do
  match inbox.read? with
  | some r => return r
  | none => readLine c (← listenOnce c inbox)

/-- Sends a command and waits for the reply. -/
def ask (c : Connection) (inbox : Line.Inbox) (command : String) :
    Async (Client.Reply × Line.Inbox) := do
  try
    c.send (packet (Line.write command))
    let r ← readLine c inbox
    return (.ofReading r.1, r.2)
  catch e => return (.trouble (.fault (faultOf e)), inbox)

/-- Gives up a connection. -/
def hangUp (c : Connection) : Async Unit := do
  try c.shutdown catch _ => return

/-- Plays a dialogue over a connection. -/
def converse {α : Type} (c : Connection) (inbox : Line.Inbox) :
    Client.Dialogue α → Async (α × Line.Inbox)
  | .done a => return (a, inbox)
  | .ask command go => do
    let r ← ask c inbox command
    converse c r.2 (go r.1)

end LineService.Shell
