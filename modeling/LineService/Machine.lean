/-!
# Machines

The concurrent parts of the service are machines: a state, labels that say which
participant takes which step, and a partial step function that also reports what
happened.  A step that is not enabled in a state has no outcome.  Participants that run
side by side are interleaved by nothing but the order of the labels, so a statement
about all lists of labels is a statement about all schedules.

`run` follows a list of labels, `Reaches` says which states can be reached and what has
happened on the way, and `settle` follows the labels that a scheduler chooses until it
has nothing left to choose.
-/

namespace LineService.Machine

/-- A partial step function over states `σ`, labels `ι` and events `ε`. -/
abbrev Step (σ ι ε : Type) := σ → ι → Option (σ × List ε)

variable {σ ι ε : Type}

/-- Follows labels; none if one of them is not enabled when its turn comes. -/
def run (step : Step σ ι ε) : σ → List ι → Option (σ × List ε)
  | s, [] => some (s, [])
  | s, l :: ls =>
    match step s l with
    | none => none
    | some (t, es) => (run step t ls).map fun r => (r.1, es ++ r.2)

/-- A state that can be reached from `s`, with what has happened on the way. -/
inductive Reaches (step : Step σ ι ε) (s : σ) : σ → List ε → Prop where
  | refl : Reaches step s s []
  | tail {t u : σ} {es fs : List ε} {l : ι} :
      Reaches step s t es → step t l = some (u, fs) → Reaches step s u (es ++ fs)

/-- Follows the labels that `next` chooses, at most `fuel` of them, until it chooses
none. -/
def settle (step : Step σ ι ε) (next : σ → Option ι) : (fuel : Nat) → σ → σ × List ε
  | 0, s => (s, [])
  | fuel + 1, s =>
    match (next s).bind (step s) with
    | none => (s, [])
    | some (t, es) =>
      let rest := settle step next fuel t
      (rest.1, es ++ rest.2)

/-- Where `settle` arrives can be reached. -/
theorem reaches_settle (step : Step σ ι ε) (next : σ → Option ι) (fuel : Nat) {s t : σ}
    {es : List ε} (h : Reaches step s t es) :
    Reaches step s (settle step next fuel t).1 (es ++ (settle step next fuel t).2) := by
  induction fuel generalizing t es with
  | zero => simpa [settle] using h
  | succ fuel ih =>
    simp only [settle]
    cases hn : next t with
    | none => simpa using h
    | some l =>
      simp only [Option.bind_some]
      cases hs : step t l with
      | none => simpa using h
      | some r => simpa [List.append_assoc] using ih (h.tail hs)

end LineService.Machine
