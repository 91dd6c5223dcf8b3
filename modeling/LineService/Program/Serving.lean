import LineService.Program.Server
import LineService.Service.Settle

/-!
# The server's program at work

While it serves, the program's service takes the steps that the network and its clients make
it take, and everything it reports goes to the journal.  The first interrupt requests
stopping, and the program ends when the service has; another one ends it at once.
-/

namespace LineService.Program

/-- The server's program at work. -/
structure Serving where
  journal : Journal.Sink
  service : Service
  /-- Where the service listens. -/
  listener : Net.Address

namespace Serving

/-- The address at which a service listens on a port, on all interfaces. -/
def listenerOn (port : UInt16) : Net.Address := ⟨.v4 0 0 0 0, 0, port⟩

/-- Takes what has happened into the journal. -/
def heed (now : String) (x : Serving) (r : Service × List Service.Event) : Serving :=
  { x with
    service := r.1
    journal := (r.2.flatMap (Service.Event.records r.1 x.listener)).foldl
      (Journal.Sink.take now) x.journal }

/-- The program when it begins to serve. -/
def start (w : Service.Surroundings) (journal : Journal.Sink) (bound : Service.Bound Nat) :
    Serving :=
  let x : Serving := ⟨journal, .new bound.crew 1, listenerOn bound.port⟩
  x.heed w.now (x.service.settle w)

/-- Something happens to the service. -/
def take (w : Service.Surroundings) (x : Serving) (l : Service.Label) : Serving :=
  x.heed w.now (x.service.stepAndSettle w l)

/-- The program is interrupted; also says whether it has to end at once. -/
def interrupt (w : Service.Surroundings) (x : Serving) : Serving × Bool :=
  let again := x.service.reception.requested
  let y := { x with journal := x.journal.take w.now (interruptRecord again) }
  if again then (y, true) else (y.take w (.request 0), false)

/-- The service has ended, and the program with it. -/
def hasEnded (x : Serving) : Bool := x.service.stage = .ended

end Serving

end LineService.Program
