/-!
# The number of clients being served

A tally counts up and down.  Counting below zero is a fault of whoever does it, and so
is counting beyond 64 bits; both spoil the tally for good, because it was being changed
when the fault was noticed.  Every later use of a spoilt tally is a fault as well.
-/

namespace LineService

/-- A count that may have been spoilt. -/
structure Tally where
  value : Nat
  spoilt : Bool
  deriving DecidableEq, Repr

namespace Tally

/-- Why a tally could not be used. -/
inductive Fault where
  | belowZero
  | overflow
  | spoilt
  deriving DecidableEq, Repr

/-- The sentence that reports the fault. -/
def Fault.message : Fault → String
  | .belowZero => "SharedCounter: decrement below zero"
  | .overflow => "attempt to add with overflow"
  | .spoilt =>
    "called `Result::unwrap()` on an `Err` value: PoisonError \x7b .. \x7d"

/-- Nobody is being served. -/
def zero : Tally := ⟨0, false⟩

/-- One more than the greatest value of a tally. -/
def bound : Nat := UInt64.size

/-- One more client: the shared counter's `increment`. -/
def increment (t : Tally) : Except Fault Unit × Tally :=
  if t.spoilt then (.error .spoilt, t)
  else if t.value + 1 < bound then (.ok (), { t with value := t.value + 1 })
  else (.error .overflow, { t with spoilt := true })

/-- One client less: the shared counter's `decrement`. -/
def decrement (t : Tally) : Except Fault Unit × Tally :=
  if t.spoilt then (.error .spoilt, t)
  else match t.value with
    | 0 => (.error .belowZero, { t with spoilt := true })
    | n + 1 => (.ok (), { t with value := n })

/-- How many clients are being served: the shared counter's `get`. -/
def get (t : Tally) : Except Fault Nat := if t.spoilt then .error .spoilt else .ok t.value

/-- Repeats a change until one of its uses is a fault. -/
def repeated (change : Tally → Except Fault Unit × Tally) :
    Nat → Tally → Except Fault Unit × Tally
  | 0, t => (.ok (), t)
  | n + 1, t =>
    match change t with
    | (.ok (), t') => repeated change n t'
    | r => r

end Tally

end LineService
