import LineService.Line.Basic

/-!
# Requests and responses

A client asks by sending a line, and is answered by a line.  `Request.ofLine`
classifies a line after its terminators are removed; the match is exact and
case-sensitive, and everything after the first space of an `ECHO` line is the
message, verbatim.  `Request.wire` is the line that asks for a request.

`Request.respond` is the answer.  It depends on nothing but the request, the text
of the clock and the number of clients being served.
-/

namespace LineService

/-- What a client can ask for. -/
inductive Request where
  | ping
  | time
  | echo (message : String)
  | stats
  | quit
  /-- A line that asks for none of these. -/
  | unknown
  deriving DecidableEq, Repr

/-- The answer to a request. -/
structure Response where
  /-- The response line without its terminator. -/
  text : String
  /-- The connection is closed once the line has been sent. -/
  closes : Bool
  deriving DecidableEq, Repr

namespace Request

/-- What a text without terminators asks for. -/
def ofText (text : String) : Request :=
  if text = "PING" then .ping
  else if text = "TIME" then .time
  else if text = "STATS" then .stats
  else if text = "QUIT" then .quit
  else match Text.after? "ECHO " text with
    | some message => .echo message
    | none => .unknown

/-- What a line asks for: the protocol's `parse`. -/
def ofLine (line : String) : Request := ofText (Line.trim line)

/-- The line that asks for a request, without its terminator.  No line asks for
`unknown`, which is written as nothing. -/
def wire : Request → String
  | .ping => "PING"
  | .time => "TIME"
  | .echo message => "ECHO " ++ message
  | .stats => "STATS"
  | .quit => "QUIT"
  | .unknown => ""

end Request

/-! ## Answers -/

namespace Response

/-- The answer to `ping`. -/
def pong : String := "PONG"

/-- The answer to `quit`. -/
def goodbye : String := "Goodbye"

/-- The answer to a line that asks for nothing. -/
def unknownCommand : String := "ERROR: Unknown command"

/-- How the answer to `stats` begins. -/
def statsOpening : String := "Active clients: "

/-- The answer to `stats` when `active` clients are being served: the protocol's
`stats_response`. -/
def activeClients (active : Nat) : String := statsOpening ++ toString active

end Response

/-- The answer to a request at the time `now`, with `active` clients being served: the server's
`interpret`, once the line has been parsed. -/
def Request.respond (now : String) (active : Nat) : Request → Response
  | .ping => ⟨Response.pong, false⟩
  | .time => ⟨now, false⟩
  | .echo message => ⟨message, false⟩
  | .stats => ⟨Response.activeClients active, false⟩
  | .quit => ⟨Response.goodbye, true⟩
  | .unknown => ⟨Response.unknownCommand, false⟩

end LineService
