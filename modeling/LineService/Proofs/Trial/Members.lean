import LineService.Proofs.Machine.Runs
import LineService.Proofs.Trial.Echoes
import LineService.Trial.Crowd
import Mathlib.Algebra.BigOperators.Group.List.Basic
import Mathlib.Algebra.GroupWithZero.Nat

/-!
# A member of the crowd

`Member.Standing` says where a member is and all that has happened to it by then: it tries to
connect once, passes the gate once, follows the course it is then on, and leaves once
(`standing_of_reaches`).  So its finding counts the payloads that did not come back
(`Standing.failed_eq`), that is what it adds to the total when it leaves (`Standing.added`), and it
takes no more steps than it has requests, and three (`Standing.length_le`).
-/

set_option autoImplicit false

namespace LineService.Trial

open Client (Reply)
open Client.Dialogue (Exchanged exchanged_done_iff)

variable {authority : String} {noise : Nat → Nat → UInt64} {client : Nat}
  {attempt : Except Net.Fault Unit} {d : Client.Dialogue Finding} {f : Finding}
  {xs : List (String × Reply)}

/-! ## The course of a client -/

@[simp] theorem length_payloads (noise : Nat → Nat → UInt64) (client : Nat) :
    (payloads noise client).length = requestsPerClient := by
  simp [payloads]

/-- Whether it gets a connection or not, a client counts the payloads that did not come back. -/
theorem failed_of_course
    (exchanged : Exchanged (course authority noise client attempt) xs (.done f)) :
    f.failed = some (unechoed (payloads noise client) (xs.map Prod.snd)) := by
  cases attempt with
  | ok u =>
      have counted := failed_of_echoes (by simp) (Nat.le_refl 0) exchanged
      rwa [Nat.zero_add] at counted
  | error fault =>
      obtain ⟨rfl, ended⟩ := exchanged_done_iff.mp exchanged
      cases ended
      rw [List.map_nil, unechoed_unanswered, length_payloads]
      rfl

theorem said_of_course (exchanged : Exchanged (course authority noise client attempt) xs d) :
    xs.map Prod.fst =
      ((payloads noise client).take xs.length).map fun p => (Request.echo p).wire := by
  cases attempt with
  | ok u => exact said_of_echoes exchanged
  | error fault =>
      obtain ⟨rfl, -⟩ := exchanged_done_iff.mp exchanged
      rfl

theorem length_le_of_course (exchanged : Exchanged (course authority noise client attempt) xs d) :
    xs.length ≤ requestsPerClient := by
  have said := congrArg List.length (said_of_course exchanged)
  simp only [List.length_map, List.length_take, length_payloads] at said
  omega

namespace Member

/-! ## Every step is a turn -/

variable {m m' : Member} {l : Label} {es : List Event}

/-- What a step needs, leaves and comes to. -/
inductive Turn (authority : String) (noise : Nat → Nat → UInt64) (client : Nat) :
    Member → Label → Member → List Event → Prop where
  | tried (attempt : Except Net.Fault Unit) : Turn authority noise client
      .connecting (.connect attempt) (.waiting attempt) [.tried attempt]
  | entered (attempt : Except Net.Fault Unit) : Turn authority noise client
      (.waiting attempt) .enter (.asking (course authority noise client attempt)) [.entered]
  | exchanged {command : String} {go : Reply → Client.Dialogue Finding} (reply : Reply) :
      Turn authority noise client (.asking (.ask command go)) (.exchange reply)
        (.asking (go reply)) [.exchanged command reply]
  | left (f : Finding) : Turn authority noise client (.asking (.done f)) .leave (.gone f) [.left f]

/-- **Every step is one of the turns.** -/
theorem turn_of_step (taken : step authority noise client m l = some (m', es)) :
    Turn authority noise client m l m' es := by
  unfold step at taken
  split at taken
  · cases taken
    exact .tried _
  · cases taken
    exact .entered _
  · cases taken
    exact .exchanged _
  · cases taken
    exact .left _
  · cases taken

/-! ## All that has happened to a member -/

/-- The command and the reply that an event is. -/
@[simp] def Event.exchange? : Event → Option (String × Reply)
  | .exchanged command reply => some (command, reply)
  | _ => none

/-- What a member has sent and what was replied, the oldest first. -/
def exchanges (es : List Event) : List (String × Reply) := es.filterMap Event.exchange?

/-- The replies, the oldest first. -/
def replies (es : List Event) : List Reply := (exchanges es).map Prod.snd

/-- The event that a command and a reply are. -/
def Event.ofExchange (x : String × Reply) : Event := .exchanged x.1 x.2

@[simp] theorem exchanges_append (es fs : List Event) :
    exchanges (es ++ fs) = exchanges es ++ exchanges fs := List.filterMap_append

@[simp] theorem exchanges_nil : exchanges [] = [] := rfl

@[simp] theorem exchanges_cons (e : Event) (es : List Event) :
    exchanges (e :: es) = e.exchange?.toList ++ exchanges es := by
  cases exchange : e.exchange? <;> simp only [exchanges, List.filterMap_cons, exchange] <;> rfl

@[simp] theorem exchanges_ofExchange (xs : List (String × Reply)) :
    exchanges (xs.map Event.ofExchange) = xs := by
  induction xs with
  | nil => rfl
  | cons x xs ih => simp [Event.ofExchange, ih]

/-- Where a member is, and all that has happened to it by then. -/
inductive Standing (authority : String) (noise : Nat → Nat → UInt64) (client : Nat) :
    Member → List Event → Prop where
  | connecting : Standing authority noise client .connecting []
  | waiting (attempt : Except Net.Fault Unit) :
      Standing authority noise client (.waiting attempt) [.tried attempt]
  | asking {attempt : Except Net.Fault Unit} {xs : List (String × Reply)}
      {d : Client.Dialogue Finding}
      (exchanged : Exchanged (course authority noise client attempt) xs d) :
      Standing authority noise client (.asking d)
        (.tried attempt :: .entered :: xs.map Event.ofExchange)
  | gone {attempt : Except Net.Fault Unit} {xs : List (String × Reply)} {f : Finding}
      (exchanged : Exchanged (course authority noise client attempt) xs (.done f)) :
      Standing authority noise client (.gone f)
        (.tried attempt :: .entered :: xs.map Event.ofExchange ++ [.left f])

/-- **All that has happened to a member follows from where it is**, but for what was replied. -/
theorem standing_of_reaches
    (reached : Machine.Reaches (step authority noise client) .connecting m es) :
    Standing authority noise client m es := by
  induction reached with
  | refl => exact .connecting
  | tail _ taken ih =>
      cases turn_of_step taken with
      | tried attempt =>
          cases ih
          exact .waiting attempt
      | entered attempt =>
          cases ih
          exact .asking (.refl _)
      | exchanged reply =>
          cases ih with
          | asking exchanged =>
              have next := Standing.asking (exchanged.concat reply)
              simpa [Event.ofExchange] using next
      | left f =>
          cases ih with
          | asking exchanged => exact .gone exchanged

/-- The member has gone. -/
def isGone : Member → Bool
  | .gone _ => true
  | _ => false

/-- The member has come to its finding. -/
inductive Found (f : Finding) : Member → Prop where
  | asking : Found f (.asking (.done f))
  | gone : Found f (.gone f)

/-- The finding of a member counts the payloads that did not come back. -/
theorem Standing.failed_eq (standing : Standing authority noise client m es) (found : Found f m) :
    f.failed = some (unechoed (payloads noise client) (replies es)) := by
  cases found with
  | asking =>
      cases standing with
      | asking exchanged => simpa [replies] using failed_of_course exchanged
  | gone =>
      cases standing with
      | gone exchanged => simpa [replies] using failed_of_course exchanged

/-- A member sends the requests for its payloads in turn, and nothing else. -/
theorem Standing.said (standing : Standing authority noise client m es) :
    (exchanges es).map Prod.fst = ((payloads noise client).take (exchanges es).length).map
      fun p => (Request.echo p).wire := by
  cases standing with
  | connecting | waiting => rfl
  | asking exchanged | gone exchanged => simpa using said_of_course exchanged

/-- Where only leaving weighs anything, a member that has not gone weighs nothing. -/
theorem Standing.sum_map_eq {M : Type} [AddCommMonoid M] {weight : Event → M}
    (standing : Standing authority noise client m es)
    (silent : ∀ e, (∀ f, e ≠ .left f) → weight e = 0) :
    (es.map weight).sum = match m with
      | .gone f => weight (.left f)
      | _ => 0 := by
  have before (attempt : Except Net.Fault Unit) (xs : List (String × Reply)) :
      ((Event.tried attempt :: .entered :: xs.map Event.ofExchange).map weight).sum = 0 := by
    refine List.sum_eq_zero fun x weighs => ?_
    obtain ⟨e, there, rfl⟩ := List.mem_map.mp weighs
    refine silent e fun f left => ?_
    simp [left, Event.ofExchange] at there
  cases standing with
  | connecting => rfl
  | waiting attempt => simpa using silent (.tried attempt) nofun
  | asking => exact before _ _
  | gone => rw [List.map_append, List.sum_append, before, zero_add, List.map_singleton,
      List.sum_singleton]

/-- **A member adds its failures when it leaves**, and nothing before. -/
theorem Standing.added (standing : Standing authority noise client m es) :
    (es.map Event.added).sum =
      if m.isGone then unechoed (payloads noise client) (replies es) else 0 := by
  have silent (e : Event) (stays : ∀ f, e ≠ .left f) : e.added = 0 := by
    cases e with
    | tried | entered | exchanged => rfl
    | left f => exact absurd rfl (stays f)
  rw [standing.sum_map_eq silent]
  cases m with
  | connecting | waiting | asking => rfl
  | gone f => simp [Event.added, isGone, standing.failed_eq .gone]

theorem Standing.length_le (standing : Standing authority noise client m es) :
    es.length ≤ requestsPerClient + 3 := by
  cases standing with
  | connecting => simp
  | waiting => simp
  | asking exchanged | gone exchanged =>
      have few := length_le_of_course exchanged
      simp only [List.length_append, List.length_cons, List.length_map, List.length_nil]
      omega

end Member

end LineService.Trial
