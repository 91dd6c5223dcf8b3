/-!
# What the network can refuse

The faults that reading from, writing to, opening or accepting a connection can
report, and the sentence in which each is reported.  Only these sentences ever
reach a log record or an error message; everything else decides on the fault
itself.
-/

namespace LineService.Net

/-- Why an operation on the network failed. -/
inductive Fault where
  | networkUnreachable
  | connectionRefused
  | connectionReset
  | brokenPipe
  | addressInUse
  /-- There is no address to connect from. -/
  | addressUnavailable
  /-- An address that belongs to some interface, without the interface. -/
  | invalidArgument
  /-- The endpoint is given without a port. -/
  | missingPort
  | invalidPort
  /-- The host has no name that could be looked up, or none that is known. -/
  | unknownHost
  /-- Nobody answers when the name of the host is looked up. -/
  | unansweredHost
  /-- A fault that is known by its sentence only. -/
  | other (text : String)
  deriving DecidableEq, Repr

/-- A sentence with the number under which the system knows the fault. -/
def numbered (text : String) (code : Nat) : String :=
  text ++ " (os error " ++ toString code ++ ")"

/-- What the system calls a fault. -/
def Fault.text : Fault → String
  | .networkUnreachable => "Network is unreachable"
  | .connectionRefused => "Connection refused"
  | .connectionReset => "Connection reset by peer"
  | .brokenPipe => "Broken pipe"
  | .addressInUse => "Address already in use"
  | .addressUnavailable => "Cannot assign requested address"
  | .invalidArgument => "Invalid argument"
  | .missingPort => "invalid socket address"
  | .invalidPort => "invalid port value"
  | .unknownHost => "failed to lookup address information: Name or service not known"
  | .unansweredHost =>
    "failed to lookup address information: Temporary failure in name resolution"
  | .other text => text

/-- The number under which the system knows a fault. -/
def Fault.number? : Fault → Option Nat
  | .networkUnreachable => some 101
  | .connectionRefused => some 111
  | .connectionReset => some 104
  | .brokenPipe => some 32
  | .addressInUse => some 98
  | .addressUnavailable => some 99
  | .invalidArgument => some 22
  | .missingPort | .invalidPort | .unknownHost | .unansweredHost | .other _ => none

/-- The sentence that reports a fault. -/
def Fault.message (f : Fault) : String :=
  match f.number? with
  | some code => numbered f.text code
  | none => f.text

/-- The fault that the system knows under a number. -/
def Fault.ofNumber? (code : Nat) : Option Fault :=
  [networkUnreachable, connectionRefused, connectionReset, brokenPipe, addressInUse,
    addressUnavailable, invalidArgument].find? fun f => f.number? = some code

/-- Whether the machine has a route to its own loopback interface.  Listening
needs none; connecting does, also to the machine itself. -/
inductive Loopback where
  | up
  | down
  deriving DecidableEq, Repr

/-- Connecting to a port of the machine itself.  Without a route the network is
unreachable, whether or not anything listens there. -/
def Loopback.connect : Loopback → (listening : Bool) → Except Fault Unit
  | .down, _ => .error .networkUnreachable
  | .up, true => .ok ()
  | .up, false => .error .connectionRefused

end LineService.Net
