import LineService.Proofs.Trial.Members
import Mathlib.Algebra.BigOperators.Group.Finset.Piecewise

/-!
# The course of a load test

`Crowd.Turn` says of every step of a crowd what it needs and leaves (`turn_of_step`).  What happens
to one member is a course of that member, whatever the others do (`History.standing`), so what is
known of one member by itself is known of all of them in every crowd.  `Placed` says where the
members can be at each stage of the host.

All that happens is of the host or of one of the members (`sum_map_eq`), so whatever events amount
to can be counted apart for each of them.
-/

set_option autoImplicit false

namespace LineService.Trial.Crowd

variable {authority : String} {noise : Nat → Nat → UInt64} {c c' : Crowd} {l : Label}
  {es fs : List Event} {k n : Nat} {m : Member} {f : Finding}

/-! ## Every step is a turn -/

/-- What a step needs, leaves and comes to. -/
inductive Turn (authority : String) (noise : Nat → Nat → UInt64) (c : Crowd) :
    Label → Crowd → List Event → Prop where
  | started (starting : c.stage = .starting) (room : c.members.length < clientCount) :
      Turn authority noise c (.start (.ok ())) { c with members := c.members ++ [.connecting] }
        [.started c.members.length]
  | givenUp (f : Net.Fault) (starting : c.stage = .starting)
      (room : c.members.length < clientCount) :
      Turn authority noise c (.start (.error f)) { c with stage := .givenUp } [.notStarted f]
  | moved {k : Nat} {l : Member.Label} {m m' : Member} {e : Member.Event}
      (here : c.members[k]? = some m) (admitted : c.admits l = true)
      (taken : m.step authority noise (k + 1) l = some (m', [e])) :
      Turn authority noise c (.member k l)
        { c with
          members := c.members.set k m', failures := count c.failures [.member k e] }
        [.member k e]
  | gathered (starting : c.stage = .starting) (all : c.members.length = clientCount) :
      Turn authority noise c .proceed { c with stage := .gathered } [.gathered]
  | opened (gathered : c.stage = .gathered) (isOpen : c.gateOpen = true) :
      Turn authority noise c .proceed { c with stage := .joining 0 } [.opened]
  | joined {k : Nat} {f : Finding} (joining : c.stage = .joining k)
      (gone : c.members[k]? = some (.gone f)) :
      Turn authority noise c .proceed
        { c with stage := .joining (k + 1), failures := count c.failures [.joined k f] }
        [.joined k f]
  | reported (elapsed throughput : String) {k : Nat} (joining : c.stage = .joining k)
      (all : k = c.members.length) :
      Turn authority noise c (.report elapsed throughput)
        { c with stage := .ended (summary elapsed throughput c.failures.toNat) }
        [.reported (summary elapsed throughput c.failures.toNat)]

/-- **Every step is one of the turns.** -/
theorem turn_of_step (taken : step authority noise c l = some (c', es)) :
    Turn authority noise c l c' es := by
  cases l with
  | start result =>
      simp only [step] at taken
      split at taken
      · rename_i ready
        cases result with
        | ok u =>
            cases taken
            exact .started ready.1 ready.2
        | error f =>
            cases taken
            exact .givenUp f ready.1 ready.2
      · cases taken
  | member k l =>
      simp only [step] at taken
      split at taken
      · cases taken
      · rename_i here
        split at taken
        · rename_i admitted
          obtain ⟨⟨m', es⟩, moved, same⟩ := Option.map_eq_some_iff.mp taken
          cases same
          obtain ⟨e, rfl⟩ : ∃ e, es = [e] := by
            cases Member.turn_of_step moved <;> exact ⟨_, rfl⟩
          exact .moved here admitted moved
        · cases taken
  | proceed =>
      simp only [step, proceed] at taken
      split at taken
      · split at taken
        · cases taken
          exact .gathered ‹_› ‹_›
        · cases taken
      · split at taken
        · cases taken
          exact .opened ‹_› ‹_›
        · cases taken
      · split at taken
        · cases taken
          exact .joined ‹_› ‹_›
        · cases taken
      · cases taken
      · cases taken
  | report elapsed throughput =>
      simp only [step] at taken
      split at taken
      · split at taken
        · cases taken
          exact .reported elapsed throughput ‹_› ‹_›
        · cases taken
      · cases taken

/-- A step of a member is one of the crowd, if the gate lets it pass. -/
theorem step_member {l : Member.Label} {m' : Member} {e : Member.Event}
    (here : c.members[k]? = some m) (admitted : c.admits l = true)
    (moved : m.step authority noise (k + 1) l = some (m', [e])) :
    step authority noise c (.member k l) = some ({ c with
      members := c.members.set k m', failures := count c.failures [.member k e] },
      [.member k e]) := by
  simp [step, here, admitted, moved]

/-- A step comes to one event. -/
theorem Turn.single (turn : Turn authority noise c l c' es) : ∃ e, es = [e] := by
  cases turn <;> exact ⟨_, rfl⟩

/-! ## One member among the others -/

/-- Member `k`; one that has not been started has not done anything yet. -/
def member (c : Crowd) (k : Nat) : Member := (c.members[k]?).getD .connecting

theorem member_eq (here : c.members[k]? = some m) : c.member k = m := by
  rw [member, here, Option.getD_some]

/-- The event of member `k` that an event is. -/
def Event.ofMember? (k : Nat) : Event → Option Member.Event
  | .member j e => if j = k then some e else none
  | _ => none

/-- What has happened to member `k`, the oldest first. -/
def ofMember (k : Nat) (es : List Event) : List Member.Event := es.filterMap (Event.ofMember? k)

theorem ofMember_append (k : Nat) (es fs : List Event) :
    ofMember k (es ++ fs) = ofMember k es ++ ofMember k fs := List.filterMap_append

/-- A crowd can come to be `c`, by these events. -/
abbrev History (authority : String) (noise : Nat → Nat → UInt64) (c : Crowd) (es : List Event) :
    Prop :=
  Machine.Reaches (step authority noise) empty c es

/-- Starting a member changes no other. -/
theorem member_concat (members : List Member) (k : Nat) :
    ((members ++ [Member.connecting])[k]?).getD .connecting =
      (members[k]?).getD .connecting := by
  rcases Nat.lt_or_ge k members.length with less | more
  · rw [List.getElem?_append_left less]
  · rw [List.getElem?_append_right more, List.getElem?_eq_none more, List.getElem?_singleton]
    split <;> rfl

/-- **Whatever the others do**, a member is where its own course has brought it. -/
theorem History.standing (history : History authority noise c es) (k : Nat) :
    Member.Standing authority noise (k + 1) (c.member k) (ofMember k es) := by
  have start : empty.member k = .connecting := rfl
  refine Member.standing_of_reaches (start ▸ ?_)
  refine Machine.Reaches.project (member · k) (Event.ofMember? k) (fun {s t l es} taken => ?_)
    history
  cases turn_of_step taken with
  | started =>
      change Machine.Reaches _ (s.member k) (((_ ++ [Member.connecting])[k]?).getD _) _
      rw [member_concat]
      exact .refl
  | @moved j l m m' e here admitted moved =>
      by_cases same : j = k
      · subst same
        have less := (List.getElem?_eq_some_iff.mp here).1
        have before : s.member j = m := member_eq here
        have after := Machine.Reaches.single (before ▸ moved)
        simpa [member, less, Event.ofMember?] using after
      · simpa [member, same, Event.ofMember?] using Machine.Reaches.refl
  | givenUp | gathered | opened | joined | reported => exact .refl

theorem History.standing_of (history : History authority noise c es)
    (here : c.members[k]? = some m) :
    Member.Standing authority noise (k + 1) m (ofMember k es) :=
  member_eq here ▸ history.standing k

/-! ## Where the members are -/

theorem hasCome_of_turn {client : Nat} {m' : Member} {l : Member.Label} {es : List Member.Event}
    (turn : Member.Turn authority noise client m l m' es) : m'.hasCome = true := by
  cases turn <;> rfl

theorem gateOpen_iff : c.gateOpen = true ↔ c.stage ≠ .starting ∧ c.members.length = clientCount ∧
    ∀ m ∈ c.members, m.hasCome = true := by
  simp [gateOpen, and_assoc]

/-- The members that the host has seen going. -/
def Stage.seen : Stage → Nat
  | .joining k => k
  | .ended _ => clientCount
  | _ => 0

/-- The host has passed the gate. -/
def Stage.passed : Stage → Bool
  | .joining _ | .ended _ => true
  | _ => false

/-- Where the members are at each stage of the host. -/
structure Placed (c : Crowd) : Prop where
  few : c.members.length ≤ clientCount
  all : c.stage = .gathered → c.members.length = clientCount
  short : c.stage = .givenUp → c.members.length < clientCount
  isOpen : c.stage.passed = true → c.gateOpen = true
  seen : c.stage.seen ≤ clientCount
  gone : ∀ i, i < c.stage.seen → ∃ f, c.members[i]? = some (.gone f)

theorem Placed.less (placed : Placed c) (here : c.members[k]? = some m) : k < clientCount :=
  Nat.lt_of_lt_of_le (List.getElem?_eq_some_iff.mp here).1 placed.few

theorem placed_empty : Placed empty :=
  ⟨Nat.zero_le _, nofun, nofun, nofun, Nat.zero_le _, fun i less => absurd less (Nat.not_lt_zero i)⟩

/-- A member that has gone takes no more steps. -/
theorem ne_gone_of_turn {client : Nat} {m' : Member} {l : Member.Label} {es : List Member.Event}
    (turn : Member.Turn authority noise client m l m' es) : m ≠ .gone f := by
  cases turn <;> nofun

theorem Placed.turn (placed : Placed c) (turn : Turn authority noise c l c' es) : Placed c' := by
  cases turn with
  | started starting room =>
      refine ⟨?_, ?_, ?_, ?_, ?_, ?_⟩
      · simpa using Nat.succ_le_of_lt room
      all_goals simp [starting, Stage.passed, Stage.seen]
  | givenUp f starting room =>
      exact ⟨placed.few, nofun, fun _ => room, nofun, Nat.zero_le _,
        fun i less => absurd less (Nat.not_lt_zero i)⟩
  | @moved k l m m' e here admitted taken =>
      have turn := Member.turn_of_step taken
      have length : (c.members.set k m').length = c.members.length := List.length_set
      refine ⟨length ▸ placed.few, fun g => length ▸ placed.all g, fun g => length ▸ placed.short g,
        fun passed => ?_, placed.seen, fun i less => ?_⟩
      · obtain ⟨begun, all, come⟩ := gateOpen_iff.mp (placed.isOpen passed)
        refine gateOpen_iff.mpr ⟨begun, length ▸ all, fun x there => ?_⟩
        rcases List.mem_or_eq_of_mem_set there with old | rfl
        · exact come x old
        · exact hasCome_of_turn turn
      · obtain ⟨f, gone⟩ := placed.gone i less
        refine ⟨f, ?_⟩
        have apart : k ≠ i := by
          rintro rfl
          exact ne_gone_of_turn turn (Option.some.inj (here.symm.trans gone))
        simpa [apart] using gone
  | gathered starting all =>
      exact ⟨placed.few, fun _ => all, nofun, nofun, Nat.zero_le _,
        fun i less => absurd less (Nat.not_lt_zero i)⟩
  | opened gathered isOpen =>
      obtain ⟨-, all, come⟩ := gateOpen_iff.mp isOpen
      exact ⟨placed.few, nofun, nofun, fun _ => gateOpen_iff.mpr ⟨nofun, all, come⟩, Nat.zero_le _,
        fun i less => absurd less (Nat.not_lt_zero i)⟩
  | @joined k f joining gone =>
      obtain ⟨-, all, come⟩ := gateOpen_iff.mp (placed.isOpen (joining ▸ rfl))
      have less := (List.getElem?_eq_some_iff.mp gone).1
      refine ⟨placed.few, nofun, nofun, fun _ => gateOpen_iff.mpr ⟨nofun, all, come⟩, all ▸ less,
        fun i here => ?_⟩
      rcases Nat.lt_succ_iff_lt_or_eq.mp here with before | rfl
      · exact placed.gone i (joining ▸ before)
      · exact ⟨f, gone⟩
  | @reported elapsed throughput k joining all =>
      obtain ⟨-, full, come⟩ := gateOpen_iff.mp (placed.isOpen (joining ▸ rfl))
      refine ⟨placed.few, nofun, nofun, fun _ => gateOpen_iff.mpr ⟨nofun, full, come⟩,
        Nat.le_refl _, fun i less => placed.gone i ?_⟩
      rw [joining, Stage.seen, all, full]
      exact less

theorem History.placed (history : History authority noise c es) : Placed c := by
  induction history with
  | refl => exact placed_empty
  | tail _ taken ih => exact ih.turn (turn_of_step taken)

/-! ## The members and the host -/

/-- The event is one of the host. -/
def Event.isHosts : Event → Bool
  | .member .. => false
  | _ => true

/-- What has happened to the host, the oldest first. -/
def ofHost (es : List Event) : List Event := es.filter Event.isHosts

theorem ofHost_append (es fs : List Event) : ofHost (es ++ fs) = ofHost es ++ ofHost fs :=
  List.filter_append ..

/-- Only members that have been started take steps. -/
theorem History.within (history : History authority noise c es) :
    ∀ k e, Event.member k e ∈ es → k < clientCount := by
  induction history with
  | refl => nofun
  | @tail s t es fs l earlier taken ih =>
      intro k e there
      rcases List.mem_append.mp there with old | new
      · exact ih k e old
      · cases turn_of_step taken with
        | moved here =>
            cases List.mem_singleton.mp new
            exact (History.placed earlier).less here
        | started | givenUp | gathered | opened | joined | reported =>
            cases List.mem_singleton.mp new

/-- What all events weigh is what those of the host weigh, and those of the members. -/
theorem sum_map_eq {M : Type} [AddCommMonoid M] (weight : Event → M)
    (within : ∀ k e, Event.member k e ∈ es → k < n) :
    (es.map weight).sum = ((ofHost es).map weight).sum +
      ∑ k ∈ Finset.range n, ((ofMember k es).map fun e => weight (.member k e)).sum := by
  induction es with
  | nil => simp [ofHost, ofMember]
  | cons e es ih =>
      have rest := ih fun k e there => within k e (List.mem_cons_of_mem _ there)
      cases e with
      | member j e =>
          have front (k : Nat) :
              ((ofMember k (.member j e :: es)).map fun e => weight (.member k e)).sum =
                (if j = k then weight (.member k e) else 0) +
                  ((ofMember k es).map fun e => weight (.member k e)).sum := by
            by_cases same : j = k <;> simp [ofMember, Event.ofMember?, same]
          have less := within j e List.mem_cons_self
          rw [List.map_cons, List.sum_cons, rest, Finset.sum_congr rfl fun k _ => front k,
            Finset.sum_add_distrib, Finset.sum_ite_eq, if_pos (Finset.mem_range.mpr less)]
          simp only [ofHost, Event.isHosts, Bool.false_eq_true, not_false_eq_true,
            List.filter_cons_of_neg]
          exact add_left_comm ..
      | started | notStarted | gathered | opened | joined | reported =>
          rw [List.map_cons, List.sum_cons, rest]
          exact (add_assoc ..).symm

end LineService.Trial.Crowd
