import LineService.Machine

/-!
# Runs of a machine

What can be reached in two parts can be reached in one (`Reaches.trans`), and a list of
labels that can be followed to its end leads to a state that can be reached
(`reaches_of_run`).  A run in which every step comes to one event can be taken apart at any of
its events (`Reaches.at_event`).

A machine that contains another one shows a run of it whenever its own steps do
(`Reaches.project`).  What holds of every run of the part then holds of the part in every
run of the whole.

Labels may tell what a machine only passes on to its events.  Where steps are blind to that,
so are runs: they lead to the same state when it is blotted out (`run_map`), and they can be
followed with something else in its place (`exists_run_of_map`).
-/

set_option autoImplicit false

namespace LineService.Machine

variable {σ ι ε τ κ φ : Type} {step : Step σ ι ε} {part : Step τ κ φ}

theorem Reaches.single {s t : σ} {l : ι} {es : List ε} (taken : step s l = some (t, es)) :
    Reaches step s t es := by
  simpa using Reaches.tail .refl taken

theorem Reaches.trans {s t u : σ} {es fs : List ε} (first : Reaches step s t es)
    (second : Reaches step t u fs) : Reaches step s u (es ++ fs) := by
  induction second with
  | refl => simpa using first
  | tail _ taken ih => simpa [List.append_assoc] using ih.tail taken

/-- Labels are followed by taking the first step and following the rest. -/
theorem run_cons_eq_some {s u : σ} {l : ι} {ls : List ι} {gs : List ε} :
    run step s (l :: ls) = some (u, gs) ↔
      ∃ t es fs, step s l = some (t, es) ∧ run step t ls = some (u, fs) ∧ gs = es ++ fs := by
  simp only [run]
  constructor
  · intro followed
    split at followed
    · cases followed
    · obtain ⟨⟨v, fs⟩, rest, same⟩ := Option.map_eq_some_iff.mp followed
      cases same
      exact ⟨_, _, fs, ‹_›, rest, rfl⟩
  · rintro ⟨t, es, fs, taken, rest, rfl⟩
    simp [taken, rest]

/-- Labels that can be followed to their end lead to a state that can be reached. -/
theorem reaches_of_run {s t : σ} (ls : List ι) {es : List ε}
    (followed : run step s ls = some (t, es)) : Reaches step s t es := by
  induction ls generalizing s es with
  | nil =>
      cases followed
      exact .refl
  | cons l ls ih =>
      obtain ⟨u, fs, gs, taken, rest, rfl⟩ := run_cons_eq_some.mp followed
      exact (Reaches.single taken).trans (ih rest)

/-- Where steps of one kind lower a measure by one and all others leave it as it is, a run lowers it
by the number of its steps of that kind. -/
theorem countP_of_run {kind : ι → Bool} {measure : σ → Nat} (inv : σ → Prop)
    (lowers : ∀ {s t : σ} {l : ι} {es : List ε}, step s l = some (t, es) → inv s →
      (kind l).toNat + measure t = measure s ∧ inv t)
    {s t : σ} (start : inv s) (ls : List ι) {es : List ε} (ran : run step s ls = some (t, es)) :
    ls.countP kind + measure t = measure s := by
  induction ls generalizing s es with
  | nil =>
      cases ran
      exact Nat.zero_add _
  | cons l ls ih =>
      obtain ⟨u, fs, gs, taken, rest, -⟩ := run_cons_eq_some.mp ran
      obtain ⟨lower, still⟩ := lowers taken start
      have later := ih still rest
      have one : (if kind l = true then 1 else 0) = (kind l).toNat := by
        cases kind l <;> rfl
      rw [List.countP_cons, one, ← lower, ← later]
      omega

/-- Where every step comes to one event, an event of a run is that of a step taken in it. -/
theorem Reaches.at_event {s u : σ} {before after : List ε} {e : ε}
    (single : ∀ {s t : σ} {l : ι} {es : List ε}, step s l = some (t, es) → ∃ e, es = [e])
    (reached : Reaches step s u (before ++ e :: after)) :
    ∃ t l v, Reaches step s t before ∧ step t l = some (v, [e]) ∧ Reaches step v u after := by
  generalize all : before ++ e :: after = es at reached
  induction reached generalizing after with
  | refl => simp at all
  | @tail t u es fs l earlier taken ih =>
      obtain ⟨f, rfl⟩ := single taken
      rcases List.eq_nil_or_concat after with rfl | ⟨rest, last, rfl⟩
      · obtain ⟨rfl, rfl⟩ := List.append_singleton_inj.mp all
        exact ⟨_, _, _, earlier, taken, .refl⟩
      · rw [List.concat_eq_append, ← List.cons_append, ← List.append_assoc] at all
        obtain ⟨behind, rfl⟩ := List.append_singleton_inj.mp all
        obtain ⟨v, k, w, first, here, later⟩ := ih behind
        exact ⟨v, k, w, first, here, by simpa using later.tail taken⟩

/-- What holds at first and is kept by every step that a scheduler chooses holds where `settle`
arrives. -/
theorem settle_induct (step : Step σ ι ε) (next : σ → Option ι) (fuel : Nat) {s : σ}
    {motive : σ → List ε → Prop} (start : motive s [])
    (keeps : ∀ {t u : σ} {es fs : List ε} {l : ι}, next t = some l → step t l = some (u, fs) →
      motive t es → motive u (es ++ fs)) :
    motive (settle step next fuel s).1 (settle step next fuel s).2 := by
  suffices ∀ {t : σ} {es : List ε}, motive t es →
      motive (settle step next fuel t).1 (es ++ (settle step next fuel t).2) by
    simpa using this start
  induction fuel with
  | zero => simp [settle]
  | succ fuel ih =>
      intro t es here
      simp only [settle]
      cases chosen : next t with
      | none => simpa using here
      | some l =>
          cases taken : step t l with
          | none => simpa [taken] using here
          | some r => simpa [taken, List.append_assoc] using ih (keeps chosen taken here)

/-- Where every step that a scheduler chooses can be taken and lowers a measure, `settle` ends only
when nothing is left to choose, if its fuel is at least the measure. -/
theorem settle_rests (step : Step σ ι ε) (next : σ → Option ι) (measure : σ → Nat)
    (inv : σ → Prop) (lowers : ∀ {s : σ} {l : ι}, inv s → next s = some l →
      ∃ t es, step s l = some (t, es) ∧ inv t ∧ measure t < measure s)
    (fuel : Nat) {s : σ} (start : inv s) (enough : measure s ≤ fuel) :
    next (settle step next fuel s).1 = none := by
  induction fuel generalizing s with
  | zero =>
      cases chosen : next s with
      | none => exact chosen
      | some l =>
          obtain ⟨t, es, -, -, less⟩ := lowers start chosen
          omega
  | succ fuel ih =>
      simp only [settle]
      cases chosen : next s with
      | none => exact chosen
      | some l =>
          obtain ⟨t, es, taken, still, less⟩ := lowers start chosen
          simpa [taken] using ih still (by omega)

/-- **A part runs when the whole does.**  Where every step of a machine is a run of one of
its parts, with the events of the part among its own, so is every run. -/
theorem Reaches.project (view : σ → τ) (kept : ε → Option φ)
    (shows : ∀ {s t : σ} {l : ι} {es : List ε}, step s l = some (t, es) →
      Reaches part (view s) (view t) (es.filterMap kept))
    {s t : σ} {es : List ε} (reached : Reaches step s t es) :
    Reaches part (view s) (view t) (es.filterMap kept) := by
  induction reached with
  | refl => exact .refl
  | tail _ taken ih =>
      rw [List.filterMap_append]
      exact ih.trans (shows taken)

section Blind

variable {f : ι → ι} {g : ε → ε}

/-- Where steps leave out of their events what is left out of their labels, so do runs. -/
theorem run_map (blind : ∀ s l, step s (f l) = (step s l).map fun r => (r.1, r.2.map g))
    (s : σ) (ls : List ι) :
    run step s (ls.map f) = (run step s ls).map fun r => (r.1, r.2.map g) := by
  induction ls generalizing s with
  | nil => rfl
  | cons l ls ih =>
      simp only [List.map_cons, run, blind]
      cases step s l with
      | none => rfl
      | some r => simp [ih, Function.comp_def]

/-- Where every step can be taken with other events and a label that looks the same, every
run can be followed so. -/
theorem exists_run_of_map (other : ∀ {s t : σ} {l : ι} {es : List ε}, step s l = some (t, es) →
      ∃ l', f l' = f l ∧ step s l' = some (t, es.map g))
    {s t : σ} {ls : List ι} {es : List ε} (followed : run step s ls = some (t, es)) :
    ∃ ls', ls'.map f = ls.map f ∧ run step s ls' = some (t, es.map g) := by
  induction ls generalizing s es with
  | nil =>
      cases followed
      exact ⟨[], rfl, rfl⟩
  | cons l ls ih =>
      obtain ⟨u, fs, gs, taken, rest, rfl⟩ := run_cons_eq_some.mp followed
      obtain ⟨l', alike, here⟩ := other taken
      obtain ⟨ls', later, followed⟩ := ih rest
      refine ⟨l' :: ls', by rw [List.map_cons, List.map_cons, alike, later], ?_⟩
      exact run_cons_eq_some.mpr ⟨u, _, _, here, followed, List.map_append⟩

end Blind

end LineService.Machine
