import LineService.Client.Dialogue

/-!
# What is said in a dialogue

Whoever follows a dialogue sends commands and gets a reply to each.  `Exchanged d xs e` says that
the dialogue `d` leads by these commands, with these replies, to what is left of it, `e`.  Nothing
is said about who replies; `Answered` says that a correspondent has given the replies.

A dialogue is played in these exchanges: as far as a correspondent has given the replies, playing
the dialogue comes to the same as playing what is left of it (`run_eq`).
-/

set_option autoImplicit false

namespace LineService.Client.Dialogue

variable {α β σ : Type}

/-- The dialogue leads by these commands and replies to what is left of it. -/
inductive Exchanged : Dialogue α → List (String × Reply) → Dialogue α → Prop where
  | refl (d : Dialogue α) : Exchanged d [] d
  | cons {command : String} {go : Reply → Dialogue α} {reply : Reply}
      {xs : List (String × Reply)} {e : Dialogue α} (later : Exchanged (go reply) xs e) :
      Exchanged (.ask command go) ((command, reply) :: xs) e

/-- The correspondent has given these replies to these commands. -/
inductive Answered (send : σ → String → Option (σ × Reply)) :
    σ → List (String × Reply) → σ → Prop where
  | refl (s : σ) : Answered send s [] s
  | cons {s t u : σ} {command : String} {reply : Reply} {xs : List (String × Reply)}
      (sent : send s command = some (t, reply)) (later : Answered send t xs u) :
      Answered send s ((command, reply) :: xs) u

variable {d e : Dialogue α} {a : α} {command : String} {go : Reply → Dialogue α}
  {xs : List (String × Reply)} {send : σ → String → Option (σ × Reply)}
  {s t u : σ}

/-- Nothing is said after the end. -/
theorem exchanged_done_iff : Exchanged (.done a) xs e ↔ xs = [] ∧ e = .done a := by
  constructor
  · intro exchanged
    cases exchanged
    exact ⟨rfl, rfl⟩
  · rintro ⟨rfl, rfl⟩
    exact .refl _

theorem Exchanged.concat (exchanged : Exchanged d xs (.ask command go)) (reply : Reply) :
    Exchanged d (xs ++ [(command, reply)]) (go reply) := by
  generalize left : Dialogue.ask command go = e at exchanged
  induction exchanged with
  | refl =>
      subst left
      exact .cons (.refl _)
  | cons _ ih => exact .cons (ih left)

theorem Answered.concat {reply : Reply} (answered : Answered send s xs t)
    (sent : send t command = some (u, reply)) : Answered send s (xs ++ [(command, reply)]) u := by
  induction answered with
  | refl => exact .cons sent (.refl _)
  | cons first _ ih => exact .cons first (ih sent)

/-- What is made of the result at the end changes nothing in what is said before. -/
theorem Exchanged.of_bind {f : α → β} {e : Dialogue β}
    (exchanged : Exchanged (d.bind fun a => .done (f a)) xs e) :
    ∃ d', Exchanged d xs d' ∧ e = d'.bind fun a => .done (f a) := by
  induction d generalizing xs with
  | done a =>
      obtain ⟨rfl, rfl⟩ := exchanged_done_iff.mp exchanged
      exact ⟨.done a, .refl _, rfl⟩
  | ask command go ih =>
      cases exchanged with
      | refl => exact ⟨.ask command go, .refl _, rfl⟩
      | cons later =>
          obtain ⟨d', before, rfl⟩ := ih _ later
          exact ⟨d', .cons before, rfl⟩

/-- A dialogue of whose result something is made has ended when it has. -/
theorem bind_eq_done {f : α → β} {b : β} (ended : (d.bind fun a => .done (f a)) = .done b) :
    ∃ a, d = .done a ∧ f a = b := by
  cases d with
  | done a => exact ⟨a, rfl, Dialogue.done.inj ended⟩
  | ask => cases ended

/-- **Playing a dialogue comes to the same as playing what is left of it**, as far as the
correspondent has given the replies. -/
theorem run_eq (exchanged : Exchanged d xs e) (answered : Answered send s xs t) :
    run send s d = run send t e := by
  induction exchanged generalizing s with
  | refl =>
      cases answered
      rfl
  | cons _ ih =>
      cases answered with
      | cons sent later =>
          rw [run, sent]
          exact ih later

end LineService.Client.Dialogue
