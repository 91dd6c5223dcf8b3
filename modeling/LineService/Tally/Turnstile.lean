import LineService.Tally.Basic

/-!
# Entering and leaving

Whoever is to be counted for a while enters, and holds a pass until leaving.  Leaving
gives the pass back whether or not the tally can still be used.  A holder that is
brought down by a fault of its own leaves as well; should the tally fail it then, there
is nobody left to report to, and everything ends.
-/

namespace LineService.Tally

/-- A tally and the passes that are out. -/
structure Turnstile (γ : Type) where
  tally : Tally
  passes : List γ
  deriving DecidableEq, Repr

namespace Turnstile

variable {γ : Type}

/-- Nobody has entered. -/
def empty : Turnstile γ := ⟨zero, []⟩

/-- What can be done at a turnstile. -/
inductive Act (γ : Type) where
  | increment
  | decrement
  | get
  | enter (pass : γ)
  | leave (pass : γ)
  /-- The holder of the pass leaves because of a fault of its own. -/
  | fall (pass : γ)
  deriving DecidableEq, Repr

/-- What it comes to. -/
inductive Answer where
  | done
  | count (n : Nat)
  | fault (f : Fault)
  deriving DecidableEq, Repr

/-- The answer to a change of the tally. -/
def Answer.ofChange : Except Fault Unit → Answer
  | .ok () => .done
  | .error f => .fault f

/-- One act: an operation of the shared counter, its `enter` among them, or the end of the guard
that `enter` gives, the pass.  Only a pass that is out can be given back, and a falling holder that
cannot be counted out leaves nothing behind that could act. -/
def step [DecidableEq γ] (s : Turnstile γ) : Act γ → Option (Turnstile γ × Answer)
  | .increment =>
    let r := s.tally.increment
    some ({ s with tally := r.2 }, .ofChange r.1)
  | .decrement =>
    let r := s.tally.decrement
    some ({ s with tally := r.2 }, .ofChange r.1)
  | .get =>
    match s.tally.get with
    | .ok n => some (s, .count n)
    | .error f => some (s, .fault f)
  | .enter pass =>
    let r := s.tally.increment
    match r.1 with
    | .ok () => some ({ tally := r.2, passes := s.passes ++ [pass] }, .done)
    | .error f => some ({ s with tally := r.2 }, .fault f)
  | .leave pass =>
    if pass ∈ s.passes then
      let r := s.tally.decrement
      some ({ tally := r.2, passes := s.passes.erase pass }, .ofChange r.1)
    else none
  | .fall pass =>
    if pass ∈ s.passes then
      let r := s.tally.decrement
      match r.1 with
      | .ok () => some ({ tally := r.2, passes := s.passes.erase pass }, .done)
      | .error _ => none
    else none

/-- Enters under a name; the pass that was out under the same name is given back after
that. -/
def reenter [DecidableEq γ] (s : Turnstile γ) (pass : γ) : Option (Turnstile γ × Answer) :=
  let held := pass ∈ s.passes
  match s.step (.enter pass) with
  | some (t, .done) => if held then t.step (.leave pass) else some (t, .done)
  | r => r

end Turnstile

end LineService.Tally
