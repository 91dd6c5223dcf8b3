import LineService.Proofs.Machine.Runs

/-!
# Machines that are watched

What a machine reports need not tell what a participant has read before it took a step.
`watched` is a machine together with somebody who notes, at every step, what there is to see
before the step is taken.  Watching changes nothing: what can be reached can be reached under
watch, with the same events (`reaches_iff_watched`).

`seen` and `happened` take apart what is noted and what the machine itself reports.
-/

set_option autoImplicit false

namespace LineService.Machine

variable {σ ι ε δ : Type} {step : Step σ ι ε} {see : σ → ι → List δ}

/-- A machine that is watched: `see` says what there is to see before a step is taken. -/
def watched (step : Step σ ι ε) (see : σ → ι → List δ) : Step σ ι (δ ⊕ ε) := fun s l =>
  (step s l).map fun r => (r.1, (see s l).map .inl ++ r.2.map .inr)

/-- What was seen. -/
def seen (ws : List (δ ⊕ ε)) : List δ := ws.filterMap Sum.getLeft?

/-- What has happened. -/
def happened (ws : List (δ ⊕ ε)) : List ε := ws.filterMap Sum.getRight?

section Views

variable (vs ws : List (δ ⊕ ε)) (ds : List δ) (es : List ε)

@[simp] theorem seen_append : seen (vs ++ ws) = seen vs ++ seen ws := List.filterMap_append

@[simp] theorem happened_append : happened (vs ++ ws) = happened vs ++ happened ws :=
  List.filterMap_append

@[simp] theorem seen_inl : seen (ds.map (Sum.inl (β := ε))) = ds := by
  simp [seen, List.filterMap_map, Function.comp_def]

@[simp] theorem seen_inr : seen (es.map (Sum.inr (α := δ))) = [] := by
  simp [seen, List.filterMap_map, Function.comp_def]

@[simp] theorem happened_inl : happened (ds.map (Sum.inl (β := ε))) = [] := by
  simp [happened, List.filterMap_map, Function.comp_def]

@[simp] theorem happened_inr : happened (es.map (Sum.inr (α := δ))) = es := by
  simp [happened, List.filterMap_map, Function.comp_def]

end Views

variable {s t : σ} {l : ι} {ws : List (δ ⊕ ε)}

/-- A step under watch is a step, with what was there to see before it. -/
theorem watched_eq_some : watched step see s l = some (t, ws) ↔
    ∃ es, step s l = some (t, es) ∧ ws = (see s l).map .inl ++ es.map .inr := by
  simp only [watched, Option.map_eq_some_iff, Prod.mk.injEq]
  constructor
  · rintro ⟨⟨u, es⟩, took, rfl, rfl⟩
    exact ⟨es, took, rfl⟩
  · rintro ⟨es, took, rfl⟩
    exact ⟨(t, es), took, rfl, rfl⟩

theorem of_watched (taken : watched step see s l = some (t, ws)) :
    step s l = some (t, happened ws) ∧ seen ws = see s l := by
  obtain ⟨es, took, rfl⟩ := watched_eq_some.mp taken
  exact ⟨by simpa using took, by simp⟩

/-- **Watching changes nothing.**  What can be reached can be reached under watch, with the
same events. -/
theorem reaches_iff_watched {es : List ε} :
    Reaches step s t es ↔ ∃ ws, Reaches (watched step see) s t ws ∧ happened ws = es := by
  constructor
  · intro reached
    induction reached with
    | refl => exact ⟨[], .refl, rfl⟩
    | tail _ taken ih =>
        obtain ⟨ws, watching, rfl⟩ := ih
        exact ⟨_, watching.tail (watched_eq_some.mpr ⟨_, taken, rfl⟩), by simp⟩
  · rintro ⟨ws, watching, rfl⟩
    exact Reaches.project id Sum.getRight? (fun taken => .single (of_watched taken).1) watching

/-! ## Watching a part -/

variable {τ κ φ : Type} {part : Step τ κ φ} {look : τ → κ → List δ} {kept : ε → Option φ}

/-- What is noted of a part of the machine. -/
def noted (kept : ε → Option φ) : δ ⊕ ε → Option (δ ⊕ φ)
  | .inl d => some (.inl d)
  | .inr e => (kept e).map .inr

@[simp] theorem seen_filterMap_noted (ws : List (δ ⊕ ε)) :
    seen (ws.filterMap (noted kept)) = seen ws := by
  rw [seen, seen, List.filterMap_filterMap]
  congr 1
  funext w
  rcases w with d | e
  · rfl
  · cases view : kept e <;> simp [noted, view]

@[simp] theorem happened_filterMap_noted (ws : List (δ ⊕ ε)) :
    happened (ws.filterMap (noted kept)) = (happened ws).filterMap kept := by
  rw [happened, happened, List.filterMap_filterMap, List.filterMap_filterMap]
  congr 1
  funext w
  rcases w with d | e
  · rfl
  · cases view : kept e <;> simp [noted, view]

theorem filterMap_noted (ds : List δ) (es : List ε) :
    (ds.map Sum.inl ++ es.map Sum.inr).filterMap (noted kept) =
      ds.map Sum.inl ++ (es.filterMap kept).map Sum.inr := by
  rw [List.filterMap_append, List.filterMap_map, List.filterMap_map, List.map_filterMap]
  simp [noted, Function.comp_def]

/-- **Who watches a machine watches its parts.**  Where every step of a machine is a step of one of
its parts in which there is the same to see, or leaves the part alone and shows nothing, the part
is watched in every run. -/
theorem Reaches.project_watched (view : σ → τ)
    (shows : ∀ {s t : σ} {l : ι} {es : List ε}, step s l = some (t, es) →
      (view t = view s ∧ see s l = [] ∧ es.filterMap kept = []) ∨
        ∃ m, part (view s) m = some (view t, es.filterMap kept) ∧ look (view s) m = see s l)
    (reached : Reaches (watched step see) s t ws) :
    Reaches (watched part look) (view s) (view t) (ws.filterMap (noted kept)) := by
  refine reached.project view (noted kept) fun {s t l ws} taken => ?_
  obtain ⟨es, took, rfl⟩ := watched_eq_some.mp taken
  rw [filterMap_noted]
  rcases shows took with ⟨same, blind, silent⟩ | ⟨m, moved, alike⟩
  · rw [same, blind, silent]
    exact .refl
  · rw [← alike]
    exact .single (watched_eq_some.mpr ⟨_, moved, rfl⟩)

end LineService.Machine
