import Mathlib.Algebra.GroupWithZero.Nat
import LineService.Proofs.Machine.Watching
import LineService.Proofs.Reception.Stopping

/-!
# What a reception hands over

When accepting has returned, the reception looks at what it returned and at whether stopping has
been requested.  Nothing reports what it reads then, so the reception is watched: a `Glance` tells
what accepting returned and what the reception read.

Every outcome of accepting is glanced at once, in order (`outcomes_eq_glances`).  A connection is
offered to those who serve exactly if the request was not seen, in the order of the glances
(`offers_eq_cleared`), and the numbers of the connections offered follow one another whatever comes
between (`numbers_eq`).  Once stopping has been requested, accepting returns at most once more, or
one connection more is offered, and not both (`chances_of_reaches`).
-/

set_option autoImplicit false

namespace LineService.Reception

variable {χ : Type} {r s : Reception χ} {l : Label χ} {es fs : List (Event χ)} {firstId : UInt32}

/-! ## Glances -/

/-- What the reception looks at when accepting has returned. -/
structure Glance (χ : Type) where
  outcome : Outcome χ
  /-- Stopping had been requested when the reception looked. -/
  asked : Bool
  deriving DecidableEq, Repr

/-- What there is to see before a step is taken. -/
def glance (r : Reception χ) : Label χ → List (Glance χ)
  | .look =>
    match r.phase with
    | .judging o => [⟨o, r.requested⟩]
    | _ => []
  | _ => []

/-- The connection that a glance lets pass. -/
def Glance.cleared? : Glance χ → Option χ
  | ⟨.connection c, false⟩ => some c
  | _ => none

/-- The connections after which the reception has not seen a request to stop, in the order in which
they were accepted. -/
def cleared (gs : List (Glance χ)) : List χ := gs.filterMap Glance.cleared?

@[simp] theorem cleared_append (gs hs : List (Glance χ)) :
    cleared (gs ++ hs) = cleared gs ++ cleared hs := List.filterMap_append

/-! ## Views of what has happened -/

def Event.outcome? : Event χ → Option (Outcome χ)
  | .returned o => some o
  | _ => none

/-- A connection, the number under which it was offered, and whether it was taken over. -/
def Event.offer? : Event χ → Option (χ × UInt32 × Bool)
  | .handed c id => some (c, id, true)
  | .refused c id => some (c, id, false)
  | _ => none

/-- What accepting has returned, in the order in which it has. -/
def outcomes (es : List (Event χ)) : List (Outcome χ) := es.filterMap Event.outcome?

/-- The connections that were offered to those who serve, each with its number and whether they
took it over. -/
def offers (es : List (Event χ)) : List (χ × UInt32 × Bool) := es.filterMap Event.offer?

/-- The connections that were offered, each with its number. -/
def offered (es : List (Event χ)) : List (χ × UInt32) := (offers es).map fun o => (o.1, o.2.1)

/-- What accepting has returned that the reception has not looked at yet. -/
def unread (r : Reception χ) : List (Outcome χ) :=
  match r.phase with
  | .judging o => [o]
  | _ => []

/-- The connection that is about to be offered, and its number. -/
def held (r : Reception χ) : List (χ × UInt32) :=
  match r.phase with
  | .handing c id => [(c, id)]
  | _ => []

@[simp] theorem outcomes_append (es fs : List (Event χ)) :
    outcomes (es ++ fs) = outcomes es ++ outcomes fs := List.filterMap_append

@[simp] theorem offers_append (es fs : List (Event χ)) :
    offers (es ++ fs) = offers es ++ offers fs := List.filterMap_append

@[simp] theorem offered_append (es fs : List (Event χ)) :
    offered (es ++ fs) = offered es ++ offered fs := by
  rw [offered, offers_append, List.map_append]
  rfl

/-- What was offered has been settled. -/
theorem mem_settled_of_mem_offered {c : χ} {id : UInt32} (member : (c, id) ∈ offered es) :
    c ∈ settled es := by
  obtain ⟨⟨d, number, taken⟩, offer, same⟩ := List.mem_map.mp member
  cases same
  obtain ⟨e, happened, view⟩ := List.mem_filterMap.mp offer
  refine List.mem_filterMap.mpr ⟨e, happened, ?_⟩
  cases e <;> cases view <;> rfl

/-- What was refused has been settled. -/
theorem mem_settled_of_mem_refused {c : χ} (member : c ∈ refused es) : c ∈ settled es :=
  (perm_settled es).mem_iff.mpr (List.mem_append_left _ (List.mem_append_right _ member))

/-! ## Every outcome is looked at once, and what is cleared is offered -/

/-- What accepting returns waits until the reception looks. -/
theorem outcomes_of_turn (turn : Turn r l s fs) :
    unread r ++ outcomes fs = (glance r l).map Glance.outcome ++ unread s := by
  cases turn with
  | connected | requested | repeated | woke | unwoken => exact List.append_nil _
  | started phase | stopped phase | opened phase | turnedAway _ phase | taken _ phase
  | gaveUp _ phase | retried _ phase | returned _ _ phase | failed _ phase | handed _ _ phase
  | refused _ _ phase =>
      simp [unread, glance, phase, outcomes, Event.outcome?]

/-- A connection that is cleared is offered before the reception looks again. -/
theorem offered_of_turn (turn : Turn r l s fs) :
    (held r).map Prod.fst ++ cleared (glance r l) =
      (offered fs).map Prod.fst ++ (held s).map Prod.fst := by
  cases turn with
  | connected | requested | repeated | woke | unwoken => exact List.append_nil _
  | started phase | opened phase | returned _ _ phase | failed _ phase | handed _ _ phase
  | refused _ _ phase =>
      simp only [held, glance, phase]
      rfl
  | stopped phase asked | turnedAway _ phase asked | gaveUp _ phase asked
  | taken _ phase asked | retried _ phase asked =>
      simp only [held, glance, phase, asked]
      rfl

/-- What a step does to the connections that have a number: nothing, or the reception gives the
next number to the connection that accepting has returned. -/
theorem numbered_of_turn (turn : Turn r l s fs) :
    (held r = offered fs ++ held s ∧ s.nextId = r.nextId) ∨
      ∃ c, l = .look ∧ r.phase = .judging (.connection c) ∧ r.requested = false ∧
        fs = [.accepted c r.nextId] ∧ held s = [(c, r.nextId)] ∧ s.nextId = r.nextId + 1 := by
  cases turn with
  | taken c phase unasked => exact .inr ⟨c, rfl, phase, unasked, rfl, rfl, rfl⟩
  | connected | requested | repeated | woke | unwoken => exact .inl ⟨rfl, rfl⟩
  | started phase | stopped phase | opened phase | turnedAway _ phase | gaveUp _ phase
  | retried _ phase | returned _ _ phase | failed _ phase | handed _ _ phase
  | refused _ _ phase =>
      refine .inl ⟨?_, rfl⟩
      simp only [held, phase]
      rfl

section Watched

open Machine (Reaches watched seen happened)

variable {ws : List (Glance χ ⊕ Event χ)}
  (reached : Reaches (watched step glance) (new firstId) r ws)
include reached

/-- **Every outcome of accepting is looked at once, in order.** -/
theorem outcomes_eq_glances :
    outcomes (happened ws) = (seen ws).map Glance.outcome ++ unread r := by
  induction reached with
  | refl => rfl
  | @tail r s ws vs l before taken ih =>
      obtain ⟨stepped, saw⟩ := Machine.of_watched taken
      calc outcomes (happened (ws ++ vs))
          = (seen ws).map Glance.outcome ++ (unread r ++ outcomes (happened vs)) := by
            rw [Machine.happened_append, outcomes_append, ih, List.append_assoc]
        _ = (seen (ws ++ vs)).map Glance.outcome ++ unread s := by
            rw [outcomes_of_turn (turn_of_step stepped), Machine.seen_append, List.map_append, saw,
              List.append_assoc]

/-- **The connections that are offered are those that were cleared**, in the same order, but for one
that is about to be. -/
theorem offers_eq_cleared :
    (offered (happened ws)).map Prod.fst ++ (held r).map Prod.fst = cleared (seen ws) := by
  induction reached with
  | refl => rfl
  | @tail r s ws vs l before taken ih =>
      obtain ⟨stepped, saw⟩ := Machine.of_watched taken
      calc (offered (happened (ws ++ vs))).map Prod.fst ++ (held s).map Prod.fst
          = (offered (happened ws)).map Prod.fst ++
              ((held r).map Prod.fst ++ cleared (glance r l)) := by
            rw [offered_of_turn (turn_of_step stepped), Machine.happened_append, offered_append,
              List.map_append, List.append_assoc]
        _ = cleared (seen (ws ++ vs)) := by
            rw [← List.append_assoc, ih, Machine.seen_append, cleared_append, saw]

end Watched

/-! ## Numbers -/

/-- The number of the connection that is offered after `k` others. -/
def number (firstId : UInt32) (k : Nat) : UInt32 := firstId + UInt32.ofNat k

theorem number_succ (k : Nat) : number firstId (k + 1) = number firstId k + 1 := by
  rw [number, number, UInt32.ofNat_add, ← UInt32.add_assoc]
  rfl

theorem number_one_toNat (k : Nat) : (number 1 k).toNat = (k + 1) % 2 ^ 32 := by
  rw [number, UInt32.toNat_add, UInt32.toNat_ofNat', Nat.add_mod_mod, Nat.add_comm]
  rfl

/-- **The numbers of the connections offered follow one another**, whatever comes between. -/
theorem numbers_eq (reached : Machine.Reaches step (new firstId) r es) : ∃ m,
    (offered es ++ held r).map Prod.snd = (List.range m).map (number firstId) ∧
      r.nextId = number firstId m := by
  induction reached with
  | refl => exact ⟨0, rfl, (UInt32.add_zero firstId).symm⟩
  | @tail r s es fs l before taken ih =>
      obtain ⟨m, earlier, next⟩ := ih
      rcases numbered_of_turn (turn_of_step taken) with
        ⟨same, still⟩ | ⟨c, -, judging, -, rfl, holds, after⟩
      · exact ⟨m, by rw [offered_append, List.append_assoc, ← same, earlier], still.trans next⟩
      · have empty : held r = [] := by simp only [held, judging]
        rw [empty, List.append_nil] at earlier
        refine ⟨m + 1, ?_, by rw [after, next, number_succ]⟩
        have nothing : offered [Event.accepted c r.nextId] = [] := rfl
        rw [offered_append, nothing, List.append_nil, List.map_append, earlier, holds,
          List.range_succ, List.map_append, next]
        rfl

/-- The connection that is offered after `k` others has the number that comes `k` after the
first. -/
theorem number_of_offer (reached : Machine.Reaches step (new firstId) r es) {k : Nat} {c : χ}
    {id : UInt32} (there : (offered es)[k]? = some (c, id)) : id = number firstId k := by
  obtain ⟨m, all, -⟩ := numbers_eq reached
  have here : ((offered es ++ held r).map Prod.snd)[k]? = some id := by
    have less := (List.getElem?_eq_some_iff.mp there).1
    rw [List.getElem?_map, List.getElem?_append_left less, there]
    rfl
  rw [all, List.getElem?_map, Option.map_eq_some_iff] at here
  obtain ⟨j, at_k, rfl⟩ := here
  rw [(List.getElem?_eq_some_iff.mp at_k).2.symm, List.getElem_range]

/-! ## After a request to stop -/

/-- How often accepting can still return, or a connection be offered, once stopping has been
requested. -/
def chances (r : Reception χ) : Nat :=
  match r.phase with
  | .accepting | .handing .. => 1
  | _ => 0

theorem chances_le (r : Reception χ) : r.chances ≤ 1 := by
  unfold chances
  split <;> omega

theorem chances_of_turn (turn : Turn r l s fs) (asked : r.requested = true) :
    (outcomes fs).length + (offers fs).length + s.chances = r.chances := by
  cases turn with
  | connected | requested | repeated | woke | unwoken => exact Nat.zero_add _
  | opened _ unasked | taken _ _ unasked | retried _ _ unasked =>
      exact absurd (asked.symm.trans unasked) (by simp)
  | started phase | stopped phase | turnedAway _ phase | gaveUp _ phase | returned _ _ phase
  | failed _ phase | handed _ _ phase | refused _ _ phase =>
      simp [chances, phase, outcomes, Event.outcome?, offers, Event.offer?]

/-- **Once stopping has been requested, accepting returns at most once more, or one more connection
is offered**, and not both. -/
theorem chances_of_reaches (asked : r.requested = true) (reached : Machine.Reaches step r s fs) :
    (outcomes fs).length + (offers fs).length + s.chances = r.chances ∧ s.requested = true := by
  induction reached with
  | refl => exact ⟨Nat.zero_add _, asked⟩
  | tail _ taken ih =>
      have turn := turn_of_step taken
      obtain ⟨earlier, still⟩ := ih
      have now := chances_of_turn turn still
      refine ⟨?_, (over_of_turn turn).2 still⟩
      rw [outcomes_append, offers_append, List.length_append, List.length_append]
      omega

end LineService.Reception
