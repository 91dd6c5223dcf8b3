import LineService.Text.Numeral

/-!
# The arguments of a client

A client is told by its arguments where to connect and what to ask.  `--host` and
`--port` take the argument after them, whatever it is; `--` ends the options, and
everything behind it, as everything that is no option, is a command.  Options apply
wherever they stand, and the last one of a kind counts.
-/

namespace LineService.Client

/-- Where to connect and what to ask. -/
structure Options where
  host : String
  port : UInt16
  /-- No command means that commands are read as they come. -/
  commands : List String
  deriving DecidableEq, Repr

/-- What holds where nothing is said. -/
def Options.standard : Options := ⟨"127.0.0.1", 8080, []⟩

/-- The endpoint to connect to. -/
def Options.authority (o : Options) : String := o.host ++ ":" ++ toString o.port.toNat

/-- Why arguments are refused. -/
inductive UsageError where
  /-- An option is the last argument. -/
  | needsValue (option : String)
  /-- A port that is not a number in the range of ports. -/
  | invalidPort (value : String)
  deriving DecidableEq, Repr

/-- The sentence that reports the error. -/
def UsageError.message : UsageError → String
  | .needsValue option => option ++ " needs a value"
  | .invalidPort value => "'" ++ value ++ "' is not a valid port"

/-- A port, as a number with an optional plus sign. -/
def port? (value : String) : Option UInt16 :=
  (Numeral.natural? (UInt16.size - 1) value).map UInt16.ofNat

/-- Reads arguments, given what the arguments before them said. -/
def Options.extend (o : Options) : List String → Except UsageError Options
  | [] => .ok o
  | "--host" :: [] => .error (.needsValue "--host")
  | "--host" :: host :: rest => { o with host := host }.extend rest
  | "--port" :: [] => .error (.needsValue "--port")
  | "--port" :: value :: rest =>
    match port? value with
    | some port => { o with port := port }.extend rest
    | none => .error (.invalidPort value)
  | "--" :: rest => .ok { o with commands := o.commands ++ rest }
  | command :: rest => { o with commands := o.commands ++ [command] }.extend rest

/-- Reads all arguments: the client program's `parse_args`. -/
def Options.read (arguments : List String) : Except UsageError Options :=
  Options.standard.extend arguments

/-- How the client is used. -/
def usage : List String := [
  "Usage: line_server_client [--host HOST] [--port PORT] [COMMAND ...]",
  "Examples:",
  "  line_server_client PING",
  "  line_server_client \"ECHO Hello World\" TIME STATS",
  "  line_server_client --port 9000      (reads commands from stdin)"]

end LineService.Client
