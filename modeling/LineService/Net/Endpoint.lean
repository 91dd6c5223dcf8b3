import LineService.Net.Host

/-!
# Endpoints to connect to

An endpoint is written as an address with its port, or as a host and a port with a colon
between them, of which the last colon counts.  A host may have several addresses.  They are
tried in turn until one accepts, and the fault that is reported is that of the last one.
-/

namespace LineService.Net

/-- Where to connect. -/
inductive Endpoint where
  | address (a : Address)
  | named (host : String) (port : UInt16)
  deriving DecidableEq, Repr

/-- What stands before the last colon, and what stands behind it. -/
def splitAtColon (s : String) : Option (String × String) :=
  let behind := s.toList.reverse.takeWhile (· ≠ ':')
  match s.toList.reverse.dropWhile (· ≠ ':') with
  | [] => none
  | _ :: before => some (String.ofList before.reverse, String.ofList behind.reverse)

/-- The endpoint that is written so. -/
def Endpoint.read (authority : String) : Except Fault Endpoint :=
  match Address.read? authority with
  | some a => .ok (.address a)
  | none =>
    match splitAtColon authority with
    | none => .error .missingPort
    | some (host, port) =>
      match Numeral.natural? (UInt16.size - 1) port with
      | none => .error .invalidPort
      | some n => .ok (.named host (UInt16.ofNat n))

/-- The addresses of an endpoint. -/
def Endpoint.addresses : Endpoint → Except Fault (List Address)
  | .address a => .ok [a]
  | .named host port => (Host.addresses host).map fun as => as.map fun a => ⟨a.1, a.2, port⟩

/-! ## Connecting -/

/-- Connects to the first of several addresses that accepts; `connect` tries one. -/
def connectAny {m : Type → Type} [Monad m] {γ : Type} (connect : Address → m (Except Fault γ)) :
    Fault → List Address → m (Except Fault γ)
  | last, [] => return .error last
  | _, a :: rest => do
    match ← connect a with
    | .ok c => return .ok c
    | .error f => connectAny connect f rest

end LineService.Net
