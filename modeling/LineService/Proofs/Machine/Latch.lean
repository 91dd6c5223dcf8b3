import LineService.Proofs.Machine.Runs

/-!
# Flags that are set once

Several participants may try to set a flag.  The first one sets it and is told so; to the others
nothing happens, and they are told that too.  `Latch` says of a machine that it has such a flag:
by one step either no call is answered and the flag stays as it is, or one call is, truthfully, and
the flag is set then.

Hence in every run the first call is told that it was the first, and no other is (`Latch.told_eq`).
-/

set_option autoImplicit false

namespace LineService.Machine

variable {σ ι ε : Type} {step : Step σ ι ε} {flag : σ → Bool} {told? : ε → Option Bool}

/-- `flag` is set by the first call and `told?` is what the calls are told. -/
structure Latch (step : Step σ ι ε) (flag : σ → Bool) (told? : ε → Option Bool) : Prop where
  turn {s t : σ} {l : ι} {es : List ε} (taken : step s l = some (t, es)) :
    (es.filterMap told? = [] ∧ flag t = flag s) ∨
      (es.filterMap told? = [!flag s] ∧ flag t = true)

namespace Latch

variable {s t : σ} {es : List ε} (latch : Latch step flag told?) (unset : flag s = false)
  (reached : Reaches step s t es)
include latch unset reached

/-- **The first call is told that it was the first**, and all others are told that they were
not. -/
theorem told_eq :
    ∃ n, es.filterMap told? = if flag t then true :: List.replicate n false else [] := by
  induction reached with
  | refl => exact ⟨0, by simp [unset]⟩
  | @tail t u es fs l _ taken ih =>
      obtain ⟨n, told⟩ := ih
      rcases latch.turn taken with ⟨untold, same⟩ | ⟨one, set⟩
      · exact ⟨n, by rw [List.filterMap_append, told, untold, List.append_nil, same]⟩
      · cases earlier : flag t with
        | false => exact ⟨0, by simp [told, one, set, earlier]⟩
        | true => exact ⟨n + 1, by simp [told, one, set, earlier, List.replicate_succ']⟩

/-- The flag is set when there has been a call. -/
theorem set_iff : flag t = true ↔ es.filterMap told? ≠ [] := by
  obtain ⟨n, told⟩ := latch.told_eq unset reached
  rw [told]
  cases flag t <;> simp

theorem set_iff_mem : flag t = true ↔ true ∈ es.filterMap told? := by
  obtain ⟨n, told⟩ := latch.told_eq unset reached
  rw [told]
  cases flag t <;> simp

/-- One call at most is told that it was the first. -/
theorem count_true : (es.filterMap told?).count true = (flag t).toNat := by
  obtain ⟨n, told⟩ := latch.told_eq unset reached
  rw [told]
  cases flag t <;> simp [List.count_replicate]

end Latch

end LineService.Machine
