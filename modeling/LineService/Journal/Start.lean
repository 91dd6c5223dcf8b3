import LineService.Files.Directory
import LineService.Journal.Record

/-!
# Where records are written

Records go to the console, or to the console and a file at once.  A process has one
journal: starting a second one is refused.  The file is opened, and created where
it is missing, before that is found out.  A file that cannot be opened is reported
by a record and is otherwise ignored.  Whatever is written is stripped of control
sequences first.
-/

namespace LineService.Journal

/-- Everything written goes to the console and to the end of a file. -/
structure Tee where
  console : String
  file : String
  deriving DecidableEq, Repr

/-- Writing a piece of text to both: the tee writer's `write`. -/
def Tee.write (t : Tee) (chunk : String) : Tee :=
  ⟨t.console ++ chunk, t.file ++ chunk⟩

/-- Why no journal was started. -/
inductive StartError where
  | alreadyStarted
  deriving DecidableEq, Repr

/-- The sentence that reports the error. -/
def StartError.message : StartError → String
  | .alreadyStarted => "a logger is already installed"

/-- A journal that takes records. -/
structure Sink where
  threshold : Level
  /-- The tee, when a file could be opened. -/
  tee : Option Tee
  /-- What has been shown to those who watch, when there is no tee. -/
  shown : String
  deriving DecidableEq, Repr

/-- Takes a record at the time `now`, if it matters enough. -/
def Sink.take (now : String) (s : Sink) (r : Record) : Sink :=
  if r.passes s.threshold then
    match s.tee with
    | some t => { s with tee := some (t.write (Text.plain (r.line now))) }
    | none => { s with shown := s.shown ++ r.shown }
  else s

/-- A journal of which everything taken so far has been written. -/
def Sink.written (s : Sink) : Sink := { s with tee := s.tee.map fun _ => ⟨"", ""⟩, shown := "" }

/-- The record that reports a file that could not be opened. -/
def openFailed (path : String) (reason : Files.Fault) : Record :=
  ⟨.warn, "Logging: Failed to open log file " ++ path ++ ": " ++ reason.message⟩

/-- Starts the journal, as logging's `init` does: the sink and the records it starts with, or the
error, if there is a journal already. -/
def start (running : Bool) (threshold : Level) (file : Option (String × Files.Place)) :
    Except StartError (Sink × List Record) :=
  if running then .error .alreadyStarted
  else match file with
    | none => .ok (⟨threshold, none, ""⟩, [])
    | some (path, .barred reason) => .ok (⟨threshold, none, ""⟩, [openFailed path reason])
    | some (_, .vacant) => .ok (⟨threshold, some ⟨"", ""⟩, ""⟩, [])
    | some (_, .file content) => .ok (⟨threshold, some ⟨"", content⟩, ""⟩, [])

end LineService.Journal
