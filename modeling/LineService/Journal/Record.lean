import LineService.Text.Blank
import LineService.Text.Case
import LineService.Text.Plain

/-!
# Log records

Every component reports what it does by records: a level and a text.  A record is
written as one line that begins with the time and the level in brackets.
-/

namespace LineService.Journal

/-- How much a record matters, from the most to the least. -/
inductive Level where
  | error
  | warn
  | info
  | debug
  | trace
  deriving DecidableEq, Repr

/-- The name of a level. -/
def Level.name : Level → String
  | .error => "ERROR"
  | .warn => "WARN"
  | .info => "INFO"
  | .debug => "DEBUG"
  | .trace => "TRACE"

/-- The place of a level in the order of importance. -/
def Level.rank : Level → Nat
  | .error => 1
  | .warn => 2
  | .info => 3
  | .debug => 4
  | .trace => 5

/-- The level a setting names (`parse_log_level`), in letters of either case and with blanks
around it.  `WARNING` is another name of `WARN`; whatever names no level means `INFO`. -/
def Level.ofSetting (value : String) : Level :=
  let name := Text.upper (Text.strip value)
  if name = "TRACE" then .trace
  else if name = "DEBUG" then .debug
  else if name = "INFO" then .info
  else if name = "WARN" ∨ name = "WARNING" then .warn
  else if name = "ERROR" then .error
  else .info

/-- A level and a text. -/
structure Record where
  level : Level
  text : String
  deriving DecidableEq, Repr

/-- A threshold lets a record pass. -/
def Record.passes (threshold : Level) (r : Record) : Bool :=
  r.level.rank ≤ threshold.rank

/-- The line that writes a record at the time `now`: logging's `write_record`. -/
def Record.line (now : String) (r : Record) : String :=
  "[" ++ now ++ "] [" ++ r.level.name ++ "] " ++ r.text ++ "\n"

/-- The sign of a level where there is no room for its name. -/
def Level.sign : Level → String
  | .error => "E"
  | .warn => "W"
  | .info => "*"
  | .debug => "D"
  | .trace => "T"

/-- What the lines of a record begin with after its first line. -/
def margin : String := " |  "

/-- How a record is shown to those who watch: the sign, the text with a margin, and a line
feed, without control sequences. -/
def Record.shown (r : Record) : String :=
  Text.plain ("[" ++ r.level.sign ++ "] " ++ r.text.replace "\n" ("\n" ++ margin) ++ "\n")

end LineService.Journal
