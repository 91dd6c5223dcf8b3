import LineService.Proofs.Crew.Accounting
import LineService.Proofs.Session.Answers
import LineService.Service.Basic

/-!
# What is recorded of a service

The events of a service tell what its reception, its crew and its sessions do, but not what their
clients do.  `recorded` is the service with a record of both: its events, and for each connection
what happens to that connection, as in a session's own course.  The record changes nothing
(`reaches_iff_recorded`).

`receptionEvents`, `crewEvents` and `courseOf i` are the parts of a record that belong to the
reception, to the crew and to connection `i`.
-/

set_option autoImplicit false

namespace LineService.Service

/-! ## The record -/

/-- What is recorded of a step. -/
inductive Entry where
  | event (e : Event)
  /-- This happens to connection `n`. -/
  | note (n : Nat) (e : Session.Event)
  deriving DecidableEq, Repr

/-- The connection to which a step happens, and what the step is to its session. -/
def touches (s : Service) : Label → Option (Nat × Session.Label)
  | .receive n bytes => some (n, .receive bytes)
  | .finish n => some (n, .finish)
  | .sever n f => some (n, .sever f)
  | .silence n f => some (n, .silence f)
  | .serve k now => (s.servedBy k).map fun n => (n, .turn now s.tally.value)
  | _ => none

/-- What happens to a connection at a step. -/
def notes (s : Service) (l : Label) : List Entry :=
  match s.touches l with
  | none => []
  | some (n, m) =>
    match (s.sessions[n]?).bind fun x => x.step m with
    | none => []
    | some (_, fs) => fs.map (.note n)

/-- The steps of a service with a record of what happens to its connections. -/
def recorded : Machine.Step Service Label Entry := fun s l =>
  (s.step l).map fun r => (r.1, r.2.map .event ++ s.notes l)

def Entry.event? : Entry → Option Event
  | .event e => some e
  | .note _ _ => none

def Entry.reception? : Entry → Option (Reception.Event Nat)
  | .event (.reception e) => some e
  | _ => none

def Entry.crew? : Entry → Option (Crew.Event Nat)
  | .event (.crew e) => some e
  | _ => none

def Entry.noteOn? (i : Nat) : Entry → Option Session.Event
  | .note n e => if n = i then some e else none
  | .event _ => none

/-- What has happened in the service. -/
def events (es : List Entry) : List Event := es.filterMap Entry.event?

/-- What has happened at the reception. -/
def receptionEvents (es : List Entry) : List (Reception.Event Nat) :=
  es.filterMap Entry.reception?

/-- What has happened in the crew. -/
def crewEvents (es : List Entry) : List (Crew.Event Nat) := es.filterMap Entry.crew?

/-- What has happened to connection `i`. -/
def courseOf (i : Nat) (es : List Entry) : List Session.Event := es.filterMap (Entry.noteOn? i)

/-- What happens at the reception, in the crew, or in and to the session of connection `n`. -/
def ofReception (fs : List (Reception.Event Nat)) : List Entry := fs.map (.event ∘ .reception)
def ofCrew (fs : List (Crew.Event Nat)) : List Entry := fs.map (.event ∘ .crew)
def ofActs (n : Nat) (acts : List Session.Act) : List Entry := acts.map (.event ∘ .session n)
def ofNotes (n : Nat) (fs : List Session.Event) : List Entry := fs.map (.note n)

section Views

variable (es fs : List Entry) (i n : Nat)

@[simp] theorem receptionEvents_nil : receptionEvents [] = [] := rfl
@[simp] theorem crewEvents_nil : crewEvents [] = [] := rfl
@[simp] theorem courseOf_nil : courseOf i [] = [] := rfl

@[simp] theorem receptionEvents_shuttingDown :
    receptionEvents (.event .shuttingDown :: es) = receptionEvents es := rfl

@[simp] theorem crewEvents_shuttingDown :
    crewEvents (.event .shuttingDown :: es) = crewEvents es := rfl

@[simp] theorem courseOf_shuttingDown :
    courseOf i (.event .shuttingDown :: es) = courseOf i es := rfl

@[simp] theorem events_append : events (es ++ fs) = events es ++ events fs :=
  List.filterMap_append

@[simp] theorem receptionEvents_append :
    receptionEvents (es ++ fs) = receptionEvents es ++ receptionEvents fs :=
  List.filterMap_append

@[simp] theorem crewEvents_append : crewEvents (es ++ fs) = crewEvents es ++ crewEvents fs :=
  List.filterMap_append

@[simp] theorem courseOf_append : courseOf i (es ++ fs) = courseOf i es ++ courseOf i fs :=
  List.filterMap_append

variable {α β γ : Type} (view : α → Option β)

theorem filterMap_map_eq_nil {make : γ → α} (xs : List γ) (blind : ∀ x, view (make x) = none) :
    (xs.map make).filterMap view = [] := by
  rw [List.filterMap_map, List.filterMap_eq_nil_iff]
  exact fun x _ => blind x

theorem filterMap_map_eq_self {make : β → α} (xs : List β) (sees : ∀ x, view (make x) = some x) :
    (xs.map make).filterMap view = xs := by
  rw [List.filterMap_map, show view ∘ make = some from funext sees, List.filterMap_some]

@[simp] theorem receptionEvents_ofReception (fs : List (Reception.Event Nat)) :
    receptionEvents (ofReception fs) = fs :=
  filterMap_map_eq_self Entry.reception? fs fun _ => rfl

@[simp] theorem receptionEvents_ofCrew (fs : List (Crew.Event Nat)) :
    receptionEvents (ofCrew fs) = [] :=
  filterMap_map_eq_nil Entry.reception? fs fun _ => rfl

@[simp] theorem receptionEvents_ofActs (acts : List Session.Act) :
    receptionEvents (ofActs n acts) = [] :=
  filterMap_map_eq_nil Entry.reception? acts fun _ => rfl

@[simp] theorem receptionEvents_ofNotes (fs : List Session.Event) :
    receptionEvents (ofNotes n fs) = [] :=
  filterMap_map_eq_nil Entry.reception? fs fun _ => rfl

@[simp] theorem crewEvents_ofReception (fs : List (Reception.Event Nat)) :
    crewEvents (ofReception fs) = [] :=
  filterMap_map_eq_nil Entry.crew? fs fun _ => rfl

@[simp] theorem crewEvents_ofCrew (fs : List (Crew.Event Nat)) : crewEvents (ofCrew fs) = fs :=
  filterMap_map_eq_self Entry.crew? fs fun _ => rfl

@[simp] theorem crewEvents_ofActs (acts : List Session.Act) : crewEvents (ofActs n acts) = [] :=
  filterMap_map_eq_nil Entry.crew? acts fun _ => rfl

@[simp] theorem crewEvents_ofNotes (fs : List Session.Event) : crewEvents (ofNotes n fs) = [] :=
  filterMap_map_eq_nil Entry.crew? fs fun _ => rfl

@[simp] theorem courseOf_ofReception (fs : List (Reception.Event Nat)) :
    courseOf i (ofReception fs) = [] :=
  filterMap_map_eq_nil (Entry.noteOn? i) fs fun _ => rfl

@[simp] theorem courseOf_ofCrew (fs : List (Crew.Event Nat)) : courseOf i (ofCrew fs) = [] :=
  filterMap_map_eq_nil (Entry.noteOn? i) fs fun _ => rfl

@[simp] theorem courseOf_ofActs (acts : List Session.Act) : courseOf i (ofActs n acts) = [] :=
  filterMap_map_eq_nil (Entry.noteOn? i) acts fun _ => rfl

@[simp] theorem courseOf_ofNotes (fs : List Session.Event) :
    courseOf i (ofNotes n fs) = if n = i then fs else [] := by
  by_cases same : n = i
  · rw [if_pos same]
    exact filterMap_map_eq_self (Entry.noteOn? i) fs fun _ => if_pos same
  · rw [if_neg same]
    exact filterMap_map_eq_nil (Entry.noteOn? i) fs fun _ => if_neg same

end Views

variable {s t : Service} {l : Label} {es : List Entry}

/-- **The record changes nothing.**  What a service can come to with a record it can come to
without, with the same events. -/
theorem reaches_iff_recorded {fs : List Event} :
    Machine.Reaches step s t fs ↔ ∃ es, Machine.Reaches recorded s t es ∧ events es = fs := by
  have events_eq (u : Service) (m : Label) (gs : List Event) :
      events (gs.map .event ++ u.notes m) = gs := by
    rw [events_append, show events (gs.map .event) = gs from
      filterMap_map_eq_self Entry.event? gs fun _ => rfl]
    have silent : events (u.notes m) = [] := by
      unfold notes
      split
      · rfl
      · split
        · rfl
        · exact filterMap_map_eq_nil Entry.event? _ fun _ => rfl
    rw [silent, List.append_nil]
  constructor
  · intro reached
    induction reached with
    | refl => exact ⟨[], .refl, rfl⟩
    | @tail u v es gs m before taken ih =>
        obtain ⟨record, recording, rfl⟩ := ih
        refine ⟨record ++ (gs.map .event ++ u.notes m), recording.tail (l := m) ?_, ?_⟩
        · simp [recorded, taken]
        · rw [events_append, events_eq]
  · rintro ⟨es, recording, rfl⟩
    refine Machine.Reaches.project id Entry.event? (fun {u v m gs} taken => ?_) recording
    simp only [recorded, Option.map_eq_some_iff, Prod.mk.injEq] at taken
    obtain ⟨⟨w, hs⟩, took, rfl, rfl⟩ := taken
    change Machine.Reaches step u w (events (hs.map .event ++ u.notes m))
    rw [events_eq]
    exact .single took

/-! ## What a step does to connections -/

/-- What closing connections does to one of them. -/
theorem sessions_discards (s : Service) (ns : List Nat) (i : Nat) :
    (ns.foldl discard s).sessions[i]? = (s.sessions[i]?).map fun x =>
      if i ∈ ns then { x with phase := .discarded } else x := by
  induction ns generalizing s with
  | nil => simp
  | cons n ns ih =>
      rw [List.foldl_cons, ih]
      simp only [discard, onSession, List.getElem?_modify, List.mem_cons]
      cases s.sessions[i]? with
      | none => rfl
      | some x =>
          by_cases here : n = i
          · simp [here]
          · simp [here, Ne.symm here]

section Fields

variable (s : Service) (n : Nat) (f : Session → Session) (ns : List Nat)

@[simp] theorem onSession_reception : (s.onSession n f).reception = s.reception := rfl
@[simp] theorem onSession_crew : (s.onSession n f).crew = s.crew := rfl
@[simp] theorem onSession_tally : (s.onSession n f).tally = s.tally := rfl
@[simp] theorem onSession_stage : (s.onSession n f).stage = s.stage := rfl

@[simp] theorem onSession_length : (s.onSession n f).sessions.length = s.sessions.length :=
  List.length_modify ..

@[simp] theorem discard_reception : (s.discard n).reception = s.reception := rfl
@[simp] theorem discard_crew : (s.discard n).crew = s.crew := rfl
@[simp] theorem discard_tally : (s.discard n).tally = s.tally := rfl
@[simp] theorem discard_stage : (s.discard n).stage = s.stage := rfl

@[simp] theorem discard_length : (s.discard n).sessions.length = s.sessions.length :=
  List.length_modify ..

/-- Closing connections changes nothing but their sessions. -/
theorem discards_eq :
    ∃ xs, ns.foldl discard s = { s with sessions := xs } ∧ xs.length = s.sessions.length := by
  induction ns generalizing s with
  | nil => exact ⟨s.sessions, rfl, rfl⟩
  | cons n ns ih =>
      obtain ⟨xs, same, length⟩ := ih (s.discard n)
      exact ⟨xs, by rw [List.foldl_cons, same]; rfl, by rw [length, discard_length]⟩

@[simp] theorem discards_reception : (ns.foldl discard s).reception = s.reception := by
  obtain ⟨xs, same, -⟩ := discards_eq s ns
  rw [same]

@[simp] theorem discards_crew : (ns.foldl discard s).crew = s.crew := by
  obtain ⟨xs, same, -⟩ := discards_eq s ns
  rw [same]

@[simp] theorem discards_tally : (ns.foldl discard s).tally = s.tally := by
  obtain ⟨xs, same, -⟩ := discards_eq s ns
  rw [same]

@[simp] theorem discards_stage : (ns.foldl discard s).stage = s.stage := by
  obtain ⟨xs, same, -⟩ := discards_eq s ns
  rw [same]

@[simp] theorem discards_length : (ns.foldl discard s).sessions.length = s.sessions.length := by
  obtain ⟨xs, same, length⟩ := discards_eq s ns
  rw [same, length]

end Fields

theorem foldl_release (s : Service) (fs : List (Crew.Event Nat)) :
    fs.foldl release s = (Crew.released fs).foldl discard s := by
  induction fs generalizing s with
  | nil => rfl
  | cons e fs ih =>
      have cons : Crew.released (e :: fs) = Crew.released [e] ++ Crew.released fs :=
        Crew.released_append [e] fs
      rw [List.foldl_cons, ih, cons, List.foldl_append]
      congr 1
      cases e with
      | queue e =>
          cases e with
          | drained ns =>
              have released : Crew.released [.queue (.drained ns)] = ns := List.append_nil ns
              rw [released]
              rfl
          | _ => rfl
      | _ => rfl

end LineService.Service
