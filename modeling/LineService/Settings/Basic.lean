import LineService.Journal.Record
import LineService.Text.Numeral

/-!
# The settings of a server

Every setting is a text under a name in small letters, and every setting may be
missing.  `ofTable` reads the five the server knows and ignores all others.  The
settings that are numbers are looked at in a fixed order, and the first one that is
not acceptable is reported.
-/

namespace LineService

/-- How a server is to run. -/
structure Settings where
  /-- The port to listen on; 0 leaves the choice to the system. -/
  port : UInt16
  workers : UInt64
  /-- How many connections may wait to be accepted. -/
  backlog : Int
  threshold : Journal.Level
  /-- Records are appended to this file as well, if there is one. -/
  logFile : Option String
  deriving DecidableEq, Repr

namespace Settings

/-- What holds where nothing is set. -/
def standard : Settings := ⟨8080, 4, 100, .info, none⟩

/-- Names and texts; of equal names the first counts. -/
abbrev Table := List (String × String)

/-- A setting whose text is not acceptable. -/
structure Invalid where
  name : String
  value : String
  deriving DecidableEq, Repr

/-- The sentence that reports it. -/
def Invalid.message (e : Invalid) : String :=
  "invalid value '" ++ e.value ++ "' for " ++ Text.upper e.name

/-- The number a setting gives (`parse_number`), read by `read` from its text without blanks
around it; `fallback` where it is missing. -/
def number {α : Type} (t : Table) (name : String) (read : String → Option α) (fallback : α) :
    Except Invalid α :=
  match t.lookup name with
  | none => .ok fallback
  | some value =>
    match read (Text.strip value) with
    | some n => .ok n
    | none => .error ⟨name, value⟩

/-- The number of connections that may wait.  There must be room for one, and a number
below that is reported as a number. -/
def readBacklog (t : Table) : Except Invalid Int := do
  let n ← number t "max_connections" (Numeral.integer? Int32.minValue.toInt Int32.maxValue.toInt)
    standard.backlog
  if n ≤ 0 then .error ⟨"max_connections", toString n⟩ else .ok n

/-- The file to write records to; a blank name is none. -/
def readLogFile (t : Table) : Option String :=
  ((t.lookup "log_file").map Text.strip).filter (· ≠ "")

/-- Reads the settings of a server: the server configuration's `from_settings`. -/
def ofTable (t : Table) : Except Invalid Settings := do
  let backlog ← readBacklog t
  let port ← number t "port" (Numeral.natural? (UInt16.size - 1)) standard.port.toNat
  let workers ←
    number t "thread_pool_size" (Numeral.natural? (UInt64.size - 1)) standard.workers.toNat
  .ok {
    port := UInt16.ofNat port
    workers := UInt64.ofNat workers
    backlog := backlog
    threshold := ((t.lookup "log_level").map Journal.Level.ofSetting).getD standard.threshold
    logFile := readLogFile t }

end Settings

end LineService
