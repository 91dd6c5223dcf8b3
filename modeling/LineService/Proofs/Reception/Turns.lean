import LineService.Proofs.Machine.Runs
import LineService.Reception

/-!
# What a step does to a reception

`Turn` says of every step of a reception, of a client that connects or of somebody who asks it to
stop what that step needs, leaves and comes to (`turn_of_step`).

A connection that accepting returns stays in the hands of the reception until it is settled: it is
handed over, refused, or turned away.  So the connections that were returned are those that have
been settled, in the same order, and then the one in hand (`returned_eq_settled`).  A reception
that is over has been asked to stop (`requested_of_over`).
-/

set_option autoImplicit false

namespace LineService.Reception

variable {χ : Type} {r s : Reception χ} {l : Label χ} {es fs : List (Event χ)}

/-- What a step needs, leaves and comes to. -/
inductive Turn (r : Reception χ) : Label χ → Reception χ → List (Event χ) → Prop where
  | connected (c : χ) : Turn r (.connect c) { r with backlog := r.backlog ++ [c] } []
  | requested (h : Nat) (first : r.requested = false) :
      Turn r (.request h) { r with requested := true, waking := true } [.requested h]
  | repeated (h : Nat) (again : r.requested = true) : Turn r (.request h) r [.repeated h]
  | woke (c : χ) (waking : r.waking = true) :
      Turn r (.wake (.ok c)) { r with waking := false, backlog := r.backlog ++ [c] } [.woke c]
  | unwoken (f : Net.Fault) (waking : r.waking = true) :
      Turn r (.wake (.error f)) { r with waking := false } [.unwoken f]
  | started (starting : r.phase = .starting) : Turn r .look { r with phase := .checking } [.started]
  | stopped (checking : r.phase = .checking) (asked : r.requested = true) :
      Turn r .look { r with phase := .over } [.stopping]
  | opened (checking : r.phase = .checking) (unasked : r.requested = false) :
      Turn r .look { r with phase := .accepting } []
  | turnedAway (c : χ) (judging : r.phase = .judging (.connection c)) (asked : r.requested = true) :
      Turn r .look { r with phase := .over } [.turnedAway c, .stopping]
  | taken (c : χ) (judging : r.phase = .judging (.connection c)) (unasked : r.requested = false) :
      Turn r .look { r with phase := .handing c r.nextId, nextId := r.nextId + 1 }
        [.accepted c r.nextId]
  | gaveUp (f : Net.Fault) (judging : r.phase = .judging (.failed f)) (asked : r.requested = true) :
      Turn r .look { r with phase := .over } [.stopping]
  | retried (f : Net.Fault) (judging : r.phase = .judging (.failed f))
      (unasked : r.requested = false) :
      Turn r .look { r with phase := .checking } [.acceptFailed f]
  | returned (c : χ) (rest : List χ) (accepting : r.phase = .accepting)
      (first : r.backlog = c :: rest) :
      Turn r .accept { r with phase := .judging (.connection c), backlog := rest }
        [.returned (.connection c)]
  | failed (f : Net.Fault) (accepting : r.phase = .accepting) :
      Turn r (.fail f) { r with phase := .judging (.failed f) } [.returned (.failed f)]
  | handed (c : χ) (id : UInt32) (handing : r.phase = .handing c id) :
      Turn r (.hand true) { r with phase := .checking } [.handed c id]
  | refused (c : χ) (id : UInt32) (handing : r.phase = .handing c id) :
      Turn r (.hand false) { r with phase := .checking } [.refused c id]

/-! ## Every step is a turn -/

theorem turn_of_look (taken : r.look = some (s, es)) : Turn r .look s es := by
  unfold look at taken
  split at taken
  · rename_i starting
    cases taken
    exact .started starting
  · rename_i checking
    split at taken
    · rename_i asked
      cases taken
      exact .stopped checking asked
    · rename_i unasked
      cases taken
      exact .opened checking (Bool.not_eq_true _ ▸ unasked)
  · rename_i c judging
    split at taken
    · rename_i asked
      cases taken
      exact .turnedAway c judging asked
    · rename_i unasked
      cases taken
      exact .taken c judging (Bool.not_eq_true _ ▸ unasked)
  · rename_i f judging
    split at taken
    · rename_i asked
      cases taken
      exact .gaveUp f judging asked
    · rename_i unasked
      cases taken
      exact .retried f judging (Bool.not_eq_true _ ▸ unasked)
  · cases taken

/-- **Every step is one of the turns.** -/
theorem turn_of_step (taken : r.step l = some (s, es)) : Turn r l s es := by
  cases l with
  | connect c =>
      cases taken
      exact .connected c
  | request h =>
      simp only [step] at taken
      split at taken
      · rename_i again
        cases taken
        exact .repeated h again
      · rename_i first
        cases taken
        exact .requested h (Bool.not_eq_true _ ▸ first)
  | wake result =>
      simp only [step] at taken
      split at taken
      · rename_i waking
        cases result with
        | ok c =>
            cases taken
            exact .woke c waking
        | error f =>
            cases taken
            exact .unwoken f waking
      · cases taken
  | look => exact turn_of_look taken
  | accept =>
      simp only [step] at taken
      split at taken
      · rename_i c rest accepting first
        cases taken
        exact .returned c rest accepting first
      · cases taken
  | fail f =>
      simp only [step] at taken
      split at taken
      · rename_i accepting
        cases taken
        exact .failed f accepting
      · cases taken
  | hand agreed =>
      simp only [step] at taken
      split at taken
      · rename_i c id handing
        cases agreed
        · cases taken
          exact .refused c id handing
        · cases taken
          exact .handed c id handing
      · cases taken

/-! ## Views of what has happened -/

def Event.returned? : Event χ → Option χ
  | .returned (.connection c) => some c
  | _ => none

def Event.handed? : Event χ → Option χ
  | .handed c _ => some c
  | _ => none

@[simp] def Event.refused? : Event χ → Option χ
  | .refused c _ => some c
  | _ => none

@[simp] def Event.turnedAway? : Event χ → Option χ
  | .turnedAway c => some c
  | _ => none

def Event.settled? : Event χ → Option χ
  | .handed c _ | .refused c _ | .turnedAway c => some c
  | _ => none

/-- The connections that accepting has returned, in the order in which it has. -/
def returned (es : List (Event χ)) : List χ := es.filterMap Event.returned?

/-- The connections that were taken over by those who serve. -/
def handed (es : List (Event χ)) : List χ := es.filterMap Event.handed?

/-- The connections that nobody took over. -/
def refused (es : List (Event χ)) : List χ := es.filterMap Event.refused?

/-- The connections that were closed because the reception had been asked to stop. -/
def turnedAway (es : List (Event χ)) : List χ := es.filterMap Event.turnedAway?

/-- The connections with which the reception is done, in the order in which it was. -/
def settled (es : List (Event χ)) : List χ := es.filterMap Event.settled?

/-- The connection that the reception has in hand, if it has one. -/
def inHand (r : Reception χ) : List χ :=
  match r.phase with
  | .judging (.connection c) | .handing c _ => [c]
  | _ => []

@[simp] theorem refused_nil : refused ([] : List (Event χ)) = [] := rfl

@[simp] theorem refused_cons (e : Event χ) (es : List (Event χ)) :
    refused (e :: es) = e.refused?.toList ++ refused es := by
  cases view : e.refused? <;> simp only [refused, List.filterMap_cons, view] <;> rfl

@[simp] theorem turnedAway_nil : turnedAway ([] : List (Event χ)) = [] := rfl

@[simp] theorem turnedAway_cons (e : Event χ) (es : List (Event χ)) :
    turnedAway (e :: es) = e.turnedAway?.toList ++ turnedAway es := by
  cases view : e.turnedAway? <;> simp only [turnedAway, List.filterMap_cons, view] <;> rfl

@[simp] theorem returned_append (es fs : List (Event χ)) :
    returned (es ++ fs) = returned es ++ returned fs := List.filterMap_append

@[simp] theorem handed_append (es fs : List (Event χ)) :
    handed (es ++ fs) = handed es ++ handed fs := List.filterMap_append

@[simp] theorem refused_append (es fs : List (Event χ)) :
    refused (es ++ fs) = refused es ++ refused fs := List.filterMap_append

@[simp] theorem turnedAway_append (es fs : List (Event χ)) :
    turnedAway (es ++ fs) = turnedAway es ++ turnedAway fs := List.filterMap_append

@[simp] theorem settled_append (es fs : List (Event χ)) :
    settled (es ++ fs) = settled es ++ settled fs := List.filterMap_append

/-- A connection with which the reception is done was handed over, refused or turned away. -/
theorem perm_settled (es : List (Event χ)) :
    (settled es).Perm (handed es ++ refused es ++ turnedAway es) := by
  induction es with
  | nil => exact .refl []
  | cons e es ih =>
      cases e with
      | handed c id => exact ih.cons c
      | refused c id =>
          refine (ih.cons c).trans ?_
          change (c :: (handed es ++ refused es ++ turnedAway es)).Perm
            (handed es ++ c :: refused es ++ turnedAway es)
          rw [List.append_assoc, List.append_assoc, List.cons_append]
          exact List.perm_middle.symm
      | turnedAway c => exact (ih.cons c).trans List.perm_middle.symm
      | _ => exact ih

/-! ## What a run keeps -/

/-- The connection that a step makes, if it makes one. -/
def Label.arrivals : Label χ → List χ
  | .connect c | .wake (.ok c) => [c]
  | _ => []

/-- Connections are returned in the order in which they were made. -/
theorem backlog_of_turn (turn : Turn r l s fs) :
    returned fs ++ s.backlog = r.backlog ++ l.arrivals := by
  cases turn with
  | returned c rest accepting first =>
      rw [first]
      exact (List.append_nil _).symm
  | connected | woke => rfl
  | _ => exact (List.append_nil _).symm

/-- What a step returns it settles or keeps in hand. -/
theorem returned_of_turn (turn : Turn r l s fs) :
    inHand r ++ returned fs = settled fs ++ inHand s := by
  cases turn with
  | connected | requested | repeated | woke | unwoken => exact List.append_nil _
  | started phase | stopped phase | opened phase | turnedAway _ phase | taken _ phase
  | gaveUp _ phase | retried _ phase | returned _ _ phase | failed _ phase | handed _ _ phase
  | refused _ _ phase =>
      simp only [inHand, phase]
      rfl

/-- **What accepting returned has been settled, in order**, but for the connection in hand. -/
theorem returned_eq_settled {firstId : UInt32}
    (reached : Machine.Reaches step (new firstId) r es) :
    returned es = settled es ++ inHand r := by
  induction reached with
  | refl => rfl
  | @tail s t es fs l before taken ih =>
      calc returned (es ++ fs) = settled es ++ (inHand s ++ returned fs) := by
            rw [returned_append, ih, List.append_assoc]
        _ = settled (es ++ fs) ++ inHand t := by
            rw [returned_of_turn (turn_of_step taken), settled_append, List.append_assoc]

/-- A reception that is over stays so, and a request to stop is never taken back. -/
theorem over_of_turn (turn : Turn r l s fs) :
    (r.phase = .over → s.phase = .over) ∧ (r.requested = true → s.requested = true) := by
  cases turn with
  | connected | repeated | woke | unwoken => exact ⟨id, id⟩
  | requested => exact ⟨id, fun _ => rfl⟩
  | started phase | stopped phase | opened phase | turnedAway _ phase | taken _ phase
  | gaveUp _ phase | retried _ phase | returned _ _ phase | failed _ phase | handed _ _ phase
  | refused _ _ phase => exact ⟨fun past => absurd (past.symm.trans phase) (by simp), id⟩

/-- A step ends the reception only when it has been asked to stop. -/
theorem requested_of_turn (turn : Turn r l s fs) (going : r.phase ≠ .over)
    (past : s.phase = .over) : s.requested = true := by
  cases turn with
  | stopped _ asked | turnedAway _ _ asked | gaveUp _ _ asked => exact asked
  | connected | requested | repeated | woke | unwoken => exact absurd past going
  | _ => cases past

/-- **A reception that is over has been asked to stop.** -/
theorem requested_of_over {firstId : UInt32}
    (reached : Machine.Reaches step (new firstId) r es) (past : r.phase = .over) :
    r.requested = true := by
  induction reached with
  | refl => cases past
  | @tail s t es fs l before taken ih =>
      have turn := turn_of_step taken
      by_cases earlier : s.phase = .over
      · exact (over_of_turn turn).2 (ih earlier)
      · exact requested_of_turn turn earlier past

end LineService.Reception
