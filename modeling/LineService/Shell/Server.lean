import LineService.Program.Serving
import LineService.Shell.Sockets
import LineService.StandIn.Collector
import Std.Async.Signal
import Std.Async.System
import Std.Sync.Mutex

/-!
# The server at work

The service of the library takes a step whenever something happens at a socket.  After each
step the lines its sessions have answered are sent, the connections they have closed are
closed, and what has been reported is written out.
-/

namespace LineService.Shell

open Std.Async

/-- The program, its connections with the number of lines sent over each, and the log file. -/
structure Works where
  serving : Program.Serving
  connections : Array (Option Connection × Nat)
  logFile : Option IO.FS.Handle

/-- Writes out what has been reported. -/
def writeOut (journal : Journal.Sink) (logFile : Option IO.FS.Handle) : IO Unit := do
  IO.eprint journal.shown
  match journal.tee with
  | none => return
  | some t =>
    IO.print t.console
    (← IO.getStdout).flush
    logFile.forM fun h => do
      h.putStr t.file
      h.flush

/-- Sends what a session has answered since, and closes its connection if it has. -/
def deliver (s : Session) (c : Option Connection × Nat) : IO (Option Connection × Nat) := do
  match c with
  | (none, sent) => return (none, sent)
  | (some socket, sent) =>
    try
      (s.sent.drop sent).forM fun text => (socket.send (packet (Line.write text))).block
      if s.isOpen then return (some socket, s.sent.length)
      else do
        socket.shutdown.block
        return (none, s.sent.length)
    catch _ => return (none, s.sent.length)

/-- Serves the connections after a step. -/
def Works.settle (w : Works) : IO Works := do
  let connections ← w.connections.mapIdxM fun n c =>
    match w.serving.service.sessions[n]? with
    | some s => deliver s c
    | none => return c
  writeOut w.serving.journal w.logFile
  return {
    w with
    connections := connections
    serving := { w.serving with journal := w.serving.journal.written } }

/-- The works of a running program, and its end. -/
structure Hub where
  works : Std.Mutex Works
  ended : IO.Promise UInt32

/-- What surrounds the service now. -/
def surroundings : IO Service.Surroundings := do
  return ⟨.up, ← clock, "127.0.0.1:0"⟩

/-- Something happens: the program takes it in, and ends if it has come to its end. -/
def Hub.happen (h : Hub)
    (f : Service.Surroundings → Works → Works × Option UInt32) : IO Unit := do
  let around ← surroundings
  let status ← h.works.atomically do
    let r := f around (← get)
    let w ← r.1.settle
    set w
    return if w.serving.hasEnded then some 0 else r.2
  status.forM fun s => h.ended.resolve s

/-- A step of the service. -/
def Hub.take (h : Hub) (l : Service.Label) : IO Unit :=
  h.happen fun around w => ({ w with serving := w.serving.take around l }, none)

/-- Passes on what arrives on connection `n`. -/
partial def Hub.attend (h : Hub) (n : Nat) (c : Connection) : Async Unit := do
  let label ← try
      match ← c.recv? packetSize with
      | some bytes => pure (Service.Label.receive n bytes.toList)
      | none => pure (Service.Label.finish n)
    catch e => pure (Service.Label.sever n (faultOf e))
  h.take label
  match label with
  | .receive .. => h.attend n c
  | _ => return

/-- Takes in connections. -/
partial def Hub.accept (h : Hub) (listener : TCP.Socket.Server) : Async Unit := do
  let c ← listener.accept
  let peer := match (← (c.getPeerName).toBaseIO) with
    | .ok a => (addressOf a).render
    | .error _ => ""
  let n ← h.works.atomically do return (← get).connections.size
  h.happen fun around w =>
    ({ w with
        connections := w.connections.push (some c, 0)
        serving := w.serving.take around (.connect peer) }, none)
  let _ ← (h.attend n c).toIO
  h.accept listener

/-- Passes on interrupts. -/
partial def Hub.watch (h : Hub) : Async Unit := do
  let waiter ← Signal.Waiter.mk .sigint false
  let _ ← await (← waiter.wait)
  h.happen fun around w =>
    let r := w.serving.interrupt around
    ({ w with serving := r.1 }, if r.2 then some 1 else none)
  h.watch

/-- Listens on the port of the settings. -/
def listenOn (settings : Settings) : IO (Except Net.Fault (TCP.Socket.Server × UInt16)) := do
  try
    let s ← TCP.Socket.Server.mk
    s.bind (.v4 ⟨.ofParts 0 0 0 0, settings.port⟩)
    s.listen (UInt32.ofNat settings.backlog.toNat)
    return .ok (s, (← s.getSockName).port)
  catch e => return .error (faultOf e)

/-- The fault that a failure of the file system is. -/
def fileFaultOf (e : IO.Error) : Files.Fault :=
  match systemFailure? e with
  | some (code, details) =>
    (Files.Fault.ofNumber? code).getD (.other (Net.numbered details code))
  | none => .other (toString e)

/-- Opens the log file of the settings. -/
def openLog (settings : Settings) : IO (Files.Place × Option IO.FS.Handle) := do
  match settings.logFile with
  | none => return (.vacant, none)
  | some path =>
    try
      let h ← IO.FS.Handle.mk path .append
      return (.vacant, some h)
    catch e => return (.barred (fileFaultOf e), none)

/-- Runs the server. -/
def runServer (arguments : List String) : IO UInt32 := do
  let path := Program.settingsPath arguments
  let file ← (IO.FS.readBinFile path).toBaseIO
  let environment ← Std.Internal.UV.System.osEnviron
  match StandIn.library.load path (file.toOption.map (·.toList)) environment.toList with
  | .error e =>
    let t := Program.serverUnset e
    IO.eprint t.errors
    return t.status
  | .ok (settings, source) =>
    let (place, log) ← openLog settings
    let listening ← listenOn settings
    let around ← surroundings
    let (journal, result) := Program.startServer
      ⟨fun _ => place, fun _ => .ok (), listening.map (·.2), around.now⟩ settings source
    match result, listening with
    | .ok bound, .ok (listener, _) =>
      let serving := Program.Serving.start around journal bound
      let works ← (Works.mk serving #[] log).settle
      let hub : Hub := ⟨← Std.Mutex.new works, ← IO.Promise.new⟩
      let _ ← hub.watch.toIO
      let _ ← (hub.accept listener).toIO
      match ← IO.wait hub.ended.result? with
      | some status => return status
      | none => return 1
    | _, _ =>
      writeOut journal log
      return 1

end LineService.Shell
