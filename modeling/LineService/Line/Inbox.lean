import LineService.Line.Basic

/-!
# The receiving side of a connection

Bytes arrive in segments of any size, and the other side may finish its sending
direction or the connection may break.  An inbox holds what has arrived and has
not been read.  Asking it for a line has an outcome only once no later arrival
could change that outcome; until then the reader has to wait.
-/

namespace LineService.Line

/-- What stands behind the bytes that have arrived. -/
inductive Outlook where
  /-- More may come. -/
  | expecting
  /-- The other side has finished sending. -/
  | ended
  /-- The connection broke. -/
  | broken (f : Net.Fault)
  deriving DecidableEq, Repr

/-- Bytes that have arrived and have not been read. -/
structure Inbox where
  pending : List UInt8
  outlook : Outlook
  deriving DecidableEq, Repr

namespace Inbox

/-- Nothing has arrived yet. -/
def empty : Inbox := ⟨[], .expecting⟩

/-- A segment arrives; nothing does once the stream has ended or broken. -/
def receive (i : Inbox) (segment : List UInt8) : Inbox :=
  match i.outlook with
  | .expecting => { i with pending := i.pending ++ segment }
  | _ => i

/-- The other side finishes sending. -/
def finish (i : Inbox) : Inbox :=
  match i.outlook with
  | .expecting => { i with outlook := .ended }
  | _ => i

/-- The connection breaks. -/
def sever (i : Inbox) (f : Net.Fault) : Inbox :=
  match i.outlook with
  | .expecting => { i with outlook := .broken f }
  | _ => i

/-- The next line and what is left: the line stream's `read_line`, none while it has to wait.
What has arrived is read before a break is noticed, but an unfinished line is lost to it. -/
def read? (i : Inbox) : Option (Reading × Inbox) :=
  let piece := (cut limit i.pending).1
  if settled piece then some ((next i.pending).1, { i with pending := (next i.pending).2 })
  else match i.outlook with
    | .expecting => none
    | .ended => some ((next i.pending).1, { i with pending := (next i.pending).2 })
    | .broken f => some (.trouble (.fault f), { i with pending := [] })

end Inbox

end LineService.Line
