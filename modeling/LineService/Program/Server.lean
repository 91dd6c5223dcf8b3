import LineService.Journal.Start
import LineService.Program.Basic
import LineService.Service.Bind
import LineService.Settings.Load

/-!
# The server's program

The program loads its settings from the file its first argument names, starts the journal,
reports what it is going to do, and gets ready to serve.  Without settings it ends before
there is a journal, and says why to those who watch.

An interrupt asks the running service to stop.  A second one does not wait for it.
-/

namespace LineService.Program

/-- The settings file where none is named. -/
def standardPath : String := "config.txt"

/-- The settings file. -/
def settingsPath (arguments : List String) : String := arguments.head?.getD standardPath

/-- A record of the program itself. -/
def programRecord (text : String) : Journal.Record := ⟨.info, text⟩

/-- What the program reports once it has its settings. -/
def openingRecords (settings : Settings) (source : Settings.Source) : List Journal.Record := [
  programRecord (match source with
    | .file path => "Loaded configuration from " ++ path
    | .defaults => "Using default configuration"),
  programRecord "Starting TCP server...",
  programRecord ("Port: " ++ toString settings.port.toNat),
  programRecord ("Thread pool size: " ++ toString settings.workers.toNat),
  programRecord ("Max connections: " ++ toString settings.backlog)]

/-- Reports that the program cannot serve. -/
def startFailed (e : Service.BindError) : Journal.Record :=
  ⟨.error, "Failed to start server: " ++ e.message⟩

/-- Reports an interrupt. -/
def interruptRecord (again : Bool) : Journal.Record :=
  if again then ⟨.warn, "Received SIGINT again, exiting without waiting for clients"⟩
  else programRecord "Received SIGINT, shutting down..."

/-- Ends because there are no settings. -/
def serverUnset (e : Settings.LoadError) : Transcript := ⟨"", printed [e.message], 1⟩

/-- What the program finds around it once it has its settings. -/
structure Setting where
  /-- What stands where a log file is to be opened. -/
  place : String → Files.Place
  /-- What starting a worker comes to. -/
  spawner : Nat → Except Net.Fault Unit
  /-- What listening on the port of the settings comes to. -/
  listening : Except Net.Fault UInt16
  /-- The text of the clock. -/
  now : String

/-- Starts the journal. -/
def startJournal (s : Setting) (settings : Settings) : Journal.Sink × List Journal.Record :=
  match Journal.start false settings.threshold (settings.logFile.map fun f => (f, s.place f)) with
  | .ok r => r
  | .error _ => (⟨settings.threshold, none, ""⟩, [])

/-- Starts the program with the settings it has loaded.  Its journal holds what it has
reported by then. -/
def startServer (s : Setting) (settings : Settings) (source : Settings.Source) :
    Journal.Sink × Except Service.BindError (Service.Bound Nat) :=
  let begun := startJournal s settings
  let binding : Service.Binding Nat := Service.bind settings s.spawner s.listening
  let failure := match binding.result with
    | .ok _ => []
    | .error e => [startFailed e]
  let records := begun.2 ++ openingRecords settings source ++
    binding.records Crew.Event.records ++ failure
  (records.foldl (Journal.Sink.take s.now) begun.1, binding.result)

end LineService.Program
