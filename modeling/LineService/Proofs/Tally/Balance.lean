import LineService.Proofs.Machine.Runs
import LineService.Tally.Turnstile
import Mathlib.Data.List.Infix

/-!
# What a tally tells

A turnstile is used by many at once, each of whose acts has the tally to itself, so a history is a
list of acts in the order in which they came, with the answer to each.  `level` counts the acts that
count in less those that count out, and a list of acts is covered when none of its beginnings counts
out more than it counts in or reaches the bound of a tally.

As long as the acts are covered the tally is their level and every act is answered truthfully
(`History.truthful`); the acts of those who come and leave with a pass are always covered
(`History.covered_of_passing`).  The first act that counts out at zero spoils the tally, which then
stays at zero and answers every later act with a fault (`ruined_of_spoilt`).
-/

set_option autoImplicit false

namespace LineService.Tally

variable {t : Tally} {n : Nat}

/-! ## Changing a tally -/

theorem increment_of_room (room : n + 1 < bound) :
    increment ⟨n, false⟩ = (.ok (), ⟨n + 1, false⟩) := by
  simp [increment, room]

theorem decrement_succ (n : Nat) : decrement ⟨n + 1, false⟩ = (.ok (), ⟨n, false⟩) := rfl

theorem decrement_zero : decrement ⟨0, false⟩ = (.error .belowZero, ⟨0, true⟩) := rfl

theorem increment_of_spoilt (spoilt : t.spoilt = true) : t.increment = (.error .spoilt, t) := by
  simp [increment, spoilt]

theorem decrement_of_spoilt (spoilt : t.spoilt = true) : t.decrement = (.error .spoilt, t) := by
  simp [decrement, spoilt]

theorem get_of_spoilt (spoilt : t.spoilt = true) : t.get = .error .spoilt := by
  simp [get, spoilt]

namespace Turnstile

variable {γ : Type}

/-! ## Acts -/

/-- The act counts somebody in. -/
def Act.countsIn : Act γ → Bool
  | .increment | .enter _ => true
  | _ => false

/-- The act counts somebody out. -/
def Act.countsOut : Act γ → Bool
  | .decrement | .leave _ | .fall _ => true
  | _ => false

/-- The pass that the act gives back. -/
def Act.returned? : Act γ → Option γ
  | .leave pass | .fall pass => some pass
  | _ => none

/-- The act is that of somebody who has come to grief already. -/
def Act.isFall : Act γ → Bool
  | .fall _ => true
  | _ => false

/-- The act is that of somebody who comes or leaves with a pass, or asks for the count. -/
def Act.isPassing : Act γ → Bool
  | .increment | .decrement => false
  | _ => true

/-- What the act does to the tally. -/
def Act.change : Act γ → Tally → Except Fault Unit × Tally
  | .increment | .enter _ => Tally.increment
  | .decrement | .leave _ | .fall _ => Tally.decrement
  | .get => fun t => (t.get.map fun _ => (), t)

/-- What the act is told of a tally that is not spoilt. -/
def Act.told (n : Nat) : Act γ → Answer
  | .get => .count n
  | _ => .done

theorem Act.change_of_spoilt (a : Act γ) (spoilt : t.spoilt = true) :
    a.change t = (.error .spoilt, t) := by
  cases a with
  | increment | enter => exact increment_of_spoilt spoilt
  | decrement | leave | fall => exact decrement_of_spoilt spoilt
  | get => simp only [change, get_of_spoilt spoilt, Except.map]

theorem Act.change_zero {a : Act γ} (out : a.countsOut = true) :
    a.change ⟨0, false⟩ = (.error .belowZero, ⟨0, true⟩) := by
  cases a with
  | decrement | leave | fall => exact decrement_zero
  | increment | enter | get => cases out

section Passes

variable [DecidableEq γ]

/-- The passes that are out when the act has been done. -/
def Act.passesAfter (passes : List γ) : Act γ → List γ
  | .enter pass => passes ++ [pass]
  | .leave pass | .fall pass => passes.erase pass
  | _ => passes

/-- The passes that are out when the act was a fault: nobody gets one, and one that was given back
is gone. -/
def Act.passesLeft (passes : List γ) : Act γ → List γ
  | .leave pass | .fall pass => passes.erase pass
  | _ => passes

variable {s u : Turnstile γ} {a : Act γ}

/-- Only a pass that is out can be given back. -/
def Allows (s : Turnstile γ) (a : Act γ) : Prop := ∀ pass, a.returned? = some pass → pass ∈ s.passes

theorem allows_of_step {answer : Answer} (taken : s.step a = some (u, answer)) : s.Allows a := by
  intro pass back
  cases a with
  | leave p | fall p =>
      obtain rfl : p = pass := Option.some.inj back
      refine Decidable.byContradiction fun absent => ?_
      simp [step, absent] at taken
  | increment | decrement | get | enter => cases back

/-- An act that the tally can bear. -/
theorem step_of_ok (allowed : s.Allows a) (opened : s.tally.spoilt = false)
    (changed : a.change s.tally = (.ok (), t)) :
    s.step a = some (⟨t, a.passesAfter s.passes⟩, a.told s.tally.value) := by
  cases a with
  | increment | decrement =>
      simp only [Act.change] at changed
      simp only [step, changed]
      rfl
  | enter pass =>
      simp only [Act.change] at changed
      simp only [step, changed]
      rfl
  | get =>
      obtain rfl : s.tally = t := congrArg Prod.snd changed
      simp only [step, Tally.get, opened]
      rfl
  | leave pass =>
      simp only [Act.change] at changed
      simp only [step, if_pos (allowed pass rfl), changed]
      rfl
  | fall pass =>
      simp only [Act.change] at changed
      simp only [step, if_pos (allowed pass rfl), changed]
      rfl

/-- An act that is a fault: there is nobody to tell if that was somebody's grief already. -/
theorem step_of_error {f : Fault} (allowed : s.Allows a)
    (changed : a.change s.tally = (.error f, t)) : s.step a =
      if a.isFall then none else some (⟨t, a.passesLeft s.passes⟩, .fault f) := by
  cases a with
  | increment | decrement =>
      simp only [Act.change] at changed
      simp only [step, changed]
      rfl
  | enter pass =>
      simp only [Act.change] at changed
      simp only [step, changed]
      rfl
  | get =>
      obtain rfl : s.tally = t := congrArg Prod.snd changed
      cases got : s.tally.get with
      | ok n => simp [Act.change, got, Except.map] at changed
      | error g =>
          obtain rfl : g = f := by simpa [Act.change, got, Except.map] using changed
          simp only [step, got]
          rfl
  | leave pass =>
      simp only [Act.change] at changed
      simp only [step, if_pos (allowed pass rfl), changed]
      rfl
  | fall pass =>
      simp only [Act.change] at changed
      simp only [step, if_pos (allowed pass rfl), changed]
      rfl

/-! ## Histories -/

/-- The turnstile as a machine: what happens is an act and the answer to it. -/
def recorded : Machine.Step (Turnstile γ) (Act γ) (Act γ × Answer) := fun s a =>
  (s.step a).map fun r => (r.1, [(a, r.2)])

/-- A turnstile at which nobody has been can come to be `s`, by these acts with these answers. -/
def History (s : Turnstile γ) (es : List (Act γ × Answer)) : Prop :=
  Machine.Reaches recorded empty s es

theorem recorded_eq_some {es : List (Act γ × Answer)} (taken : recorded s a = some (u, es)) :
    ∃ answer, s.step a = some (u, answer) ∧ es = [(a, answer)] := by
  obtain ⟨⟨v, answer⟩, stepped, same⟩ := Option.map_eq_some_iff.mp taken
  cases same
  exact ⟨answer, stepped, rfl⟩

/-- The passes that are out after these acts. -/
def passesOut (as : List (Act γ)) : List γ := as.foldl Act.passesAfter []

end Passes

/-- The acts of a history. -/
abbrev acts (es : List (Act γ × Answer)) : List (Act γ) := es.map Prod.fst

/-- How many of the acts count in. -/
def comings (as : List (Act γ)) : Nat := as.countP Act.countsIn

/-- How many of the acts count out. -/
def goings (as : List (Act γ)) : Nat := as.countP Act.countsOut

/-- By how many the comings exceed the goings. -/
def level (as : List (Act γ)) : Nat := comings as - goings as

/-- No beginning counts out more than it counts in, or reaches the bound of a tally. -/
def Covered (as : List (Act γ)) : Prop :=
  ∀ before, before <+: as → goings before ≤ comings before ∧ level before < bound

instance (as : List (Act γ)) : Decidable (Covered as) :=
  decidable_of_iff
    (∀ before ∈ as.inits, goings before ≤ comings before ∧ level before < bound)
    (forall_congr' fun before => imp_congr_left (List.mem_inits before as))

variable {as : List (Act γ)} {a : Act γ}

theorem comings_concat (as : List (Act γ)) (a : Act γ) :
    comings (as ++ [a]) = comings as + a.countsIn.toNat := by
  cases counts : a.countsIn <;> simp [comings, counts]

theorem goings_concat (as : List (Act γ)) (a : Act γ) :
    goings (as ++ [a]) = goings as + a.countsOut.toNat := by
  cases counts : a.countsOut <;> simp [goings, counts]

theorem covered_nil : Covered ([] : List (Act γ)) := by
  intro before here
  obtain rfl := List.prefix_nil.mp here
  exact ⟨Nat.le_refl _, Nat.zero_lt_of_lt (show 0 < bound by decide)⟩

theorem Covered.self (covered : Covered as) : goings as ≤ comings as ∧ level as < bound :=
  covered as (List.prefix_refl _)

theorem Covered.of_concat (covered : Covered (as ++ [a])) : Covered as := by
  intro before here
  exact covered before (here.trans (List.prefix_append _ _))

theorem Covered.concat (covered : Covered as) (enough : goings (as ++ [a]) ≤ comings (as ++ [a]))
    (room : level (as ++ [a]) < bound) : Covered (as ++ [a]) := by
  intro before here
  rcases List.prefix_concat_iff.mp here with rfl | earlier
  · exact ⟨enough, room⟩
  · exact covered before earlier

theorem level_concat (as : List (Act γ)) (a : Act γ) : level (as ++ [a]) =
    comings as + a.countsIn.toNat - (goings as + a.countsOut.toNat) := by
  rw [level, comings_concat, goings_concat]

theorem Covered.level_concat_in (covered : Covered as) (isIn : a.countsIn = true)
    (notOut : a.countsOut = false) : level (as ++ [a]) = level as + 1 := by
  have enough := covered.self.1
  rw [level_concat, isIn, notOut, Bool.toNat_true, Bool.toNat_false, level]
  omega

theorem Covered.level_concat_out (covered : Covered (as ++ [a])) (out : a.countsOut = true)
    (notIn : a.countsIn = false) : level as = level (as ++ [a]) + 1 := by
  have enough := covered.self.1
  rw [comings_concat, goings_concat, out, notIn, Bool.toNat_true, Bool.toNat_false] at enough
  rw [level_concat, out, notIn, Bool.toNat_true, Bool.toNat_false, level]
  omega

/-- The tally can bear an act after which the acts are still covered. -/
theorem Covered.change (covered : Covered (as ++ [a])) :
    a.change ⟨level as, false⟩ = (.ok (), ⟨level (as ++ [a]), false⟩) := by
  have before := covered.of_concat
  have room := covered.self.2
  cases a with
  | increment | enter =>
      rw [before.level_concat_in rfl rfl] at room ⊢
      exact increment_of_room room
  | decrement | leave | fall =>
      rw [covered.level_concat_out rfl rfl]
      exact decrement_succ _
  | get =>
      rw [level_concat]
      rfl

variable [DecidableEq γ]

theorem passesOut_concat (as : List (Act γ)) (a : Act γ) :
    passesOut (as ++ [a]) = a.passesAfter (passesOut as) := by
  rw [passesOut, List.foldl_append]
  rfl

/-! ## As long as the acts are covered -/

variable {s u : Turnstile γ} {es fs : List (Act γ × Answer)}

/-- The turnstile is what acts that are covered lead to. -/
structure Truthful (as : List (Act γ)) (s : Turnstile γ) : Prop where
  tally : s.tally = ⟨level as, false⟩
  passes : s.passes = passesOut as

/-- An act after which the acts are still covered is told the truth. -/
theorem Truthful.step (truthful : Truthful as s) (covered : Covered (as ++ [a]))
    (allowed : s.Allows a) : ∃ u, s.step a = some (u, a.told (level as)) ∧
      Truthful (as ++ [a]) u := by
  obtain ⟨tally, passes⟩ := truthful
  have changed : a.change s.tally = (.ok (), ⟨level (as ++ [a]), false⟩) := by
    rw [tally]
    exact covered.change
  have taken := step_of_ok allowed (by rw [tally]) changed
  rw [tally] at taken
  refine ⟨_, taken, rfl, ?_⟩
  rw [passesOut_concat, passes]

/-- **As long as the acts are covered, everybody is told the truth.** -/
theorem History.truthful (history : History s es) (covered : Covered (acts es)) :
    Truthful (acts es) s ∧ ∀ before a answer after, es = before ++ (a, answer) :: after →
      answer = a.told (level (acts before)) := by
  induction history with
  | refl => exact ⟨⟨rfl, rfl⟩, fun before a answer after split => by simp at split⟩
  | @tail s u es fs a before taken ih =>
      obtain ⟨answer, stepped, rfl⟩ := recorded_eq_some taken
      have all : acts (es ++ [(a, answer)]) = acts es ++ [a] := List.map_append
      rw [all] at covered ⊢
      obtain ⟨truthful, told⟩ := ih covered.of_concat
      obtain ⟨v, stepped', next⟩ := truthful.step covered (allows_of_step stepped)
      cases stepped.symm.trans stepped'
      refine ⟨next, fun first b reply after split => ?_⟩
      rcases List.eq_nil_or_concat after with rfl | ⟨front, last, rfl⟩
      · obtain ⟨rfl, same⟩ := List.append_singleton_inj.mp split
        cases same
        rfl
      · rw [List.concat_eq_append, ← List.cons_append, ← List.append_assoc] at split
        exact told first b reply front (List.append_singleton_inj.mp split).1

/-! ## Those who come and leave with a pass -/

/-- Acts of those who hold a pass are covered as long as there are fewer passes than the bound. -/
theorem Covered.concat_of_passing (covered : Covered as) (even : level as = (passesOut as).length)
    (passing : a.isPassing = true) (allowed : ∀ pass, a.returned? = some pass → pass ∈ passesOut as)
    (room : (passesOut (as ++ [a])).length < bound) :
    Covered (as ++ [a]) ∧ level (as ++ [a]) = (passesOut (as ++ [a])).length := by
  have enough := covered.self.1
  have now : level as = comings as - goings as := rfl
  have fewer {pass : γ} (out : pass ∈ passesOut as) :
      ((passesOut as).erase pass).length + 1 = (passesOut as).length := by
    have positive := List.length_pos_of_mem out
    rw [List.length_erase_of_mem out]
    omega
  suffices goings (as ++ [a]) ≤ comings (as ++ [a]) ∧
      level (as ++ [a]) = (passesOut (as ++ [a])).length from
    ⟨covered.concat this.1 (this.2 ▸ room), this.2⟩
  rw [level, comings_concat, goings_concat, passesOut_concat]
  cases a with
  | increment | decrement => cases passing
  | enter pass =>
      simp only [Act.countsIn, Act.countsOut, Act.passesAfter, Bool.toNat_true, Bool.toNat_false,
        List.length_append, List.length_singleton]
      omega
  | get =>
      simp only [Act.countsIn, Act.countsOut, Act.passesAfter, Bool.toNat_false]
      omega
  | leave pass | fall pass =>
      have gone := fewer (allowed pass rfl)
      simp only [Act.countsIn, Act.countsOut, Act.passesAfter, Bool.toNat_true, Bool.toNat_false]
      omega

/-- **Those who hold a pass never count out more than they count in**, and the level is the number
of passes that are out. -/
theorem History.covered_of_passing (history : History s es)
    (passing : ∀ a ∈ acts es, a.isPassing = true)
    (room : ∀ before, before <+: acts es → (passesOut before).length < bound) :
    Covered (acts es) ∧ level (acts es) = (passesOut (acts es)).length := by
  induction history with
  | refl => exact ⟨covered_nil, rfl⟩
  | @tail s u es fs a before taken ih =>
      obtain ⟨answer, stepped, rfl⟩ := recorded_eq_some taken
      have all : acts (es ++ [(a, answer)]) = acts es ++ [a] := List.map_append
      rw [all] at passing room ⊢
      obtain ⟨covered, even⟩ := ih (fun b here => passing b (List.mem_append_left _ here))
        fun first here => room first (here.trans (List.prefix_append _ _))
      have out := ((show History s es from before).truthful covered).1.passes
      refine covered.concat_of_passing even (passing a (by simp)) ?_ (room _ (List.prefix_refl _))
      rw [← out]
      exact allows_of_step stepped

/-! ## A tally that is spoilt -/

/-- The tally is spoilt for good: it does not change any more, everybody who uses it is told so, and
nobody who has come to grief can be counted out. -/
structure Ruined (s : Turnstile γ) (es : List (Act γ × Answer)) (u : Turnstile γ) : Prop where
  tally : u.tally = s.tally
  told : ∀ e ∈ es, e.2 = .fault .spoilt
  next : ∀ a, u.Allows a → a.isFall = false → ∃ v, u.step a = some (v, .fault .spoilt)
  stuck : ∀ pass, u.step (.fall pass) = none

theorem step_of_spoilt (spoilt : s.tally.spoilt = true) (allowed : s.Allows a) : s.step a =
    if a.isFall then none else some (⟨s.tally, a.passesLeft s.passes⟩, .fault .spoilt) :=
  step_of_error allowed (a.change_of_spoilt spoilt)

/-- **A tally that is spoilt stays so.** -/
theorem ruined_of_spoilt (spoilt : s.tally.spoilt = true)
    (later : Machine.Reaches recorded s u es) : Ruined s es u := by
  suffices u.tally = s.tally ∧ ∀ e ∈ es, e.2 = .fault .spoilt by
    obtain ⟨same, told⟩ := this
    have still : u.tally.spoilt = true := by rw [same, spoilt]
    refine ⟨same, told, fun a allowed sound => ?_, fun pass => ?_⟩
    · have taken := step_of_spoilt still allowed
      rw [sound] at taken
      exact ⟨_, taken⟩
    · by_cases out : pass ∈ u.passes
      · exact step_of_spoilt still fun p back => Option.some.inj back ▸ out
      · simp only [step, if_neg out]
  induction later with
  | refl => exact ⟨rfl, fun e told => by cases told⟩
  | @tail u v es fs a before taken ih =>
      obtain ⟨same, told⟩ := ih
      obtain ⟨answer, stepped, rfl⟩ := recorded_eq_some taken
      have still : u.tally.spoilt = true := by rw [same, spoilt]
      have spoils := step_of_spoilt still (allows_of_step stepped)
      rw [stepped] at spoils
      split at spoils
      · cases spoils
      · cases spoils
        refine ⟨same, fun e member => ?_⟩
        rcases List.mem_append.mp member with earlier | now
        · exact told e earlier
        · rw [List.mem_singleton.mp now]

/-- Whoever counts out at zero spoils the tally. -/
theorem Truthful.step_zero (truthful : Truthful as s) (nobody : level as = 0)
    (out : a.countsOut = true) (allowed : s.Allows a) : s.step a =
      if a.isFall then none else some (⟨⟨0, true⟩, a.passesLeft s.passes⟩, .fault .belowZero) := by
  refine step_of_error allowed ?_
  rw [truthful.tally, nobody]
  exact Act.change_zero out

/-! ## Every history -/

/-- **A tally is truthful until it is spoilt, and spoilt for good.**  Whatever acts have come, of
however many participants and in whatever order:

* As long as the acts are covered the tally is their level and nobody has met with a fault: each act
  has been told the truth at its moment, and so is the next one that leaves the acts covered.
* The acts of those who come and leave with a pass are covered as long as there are fewer passes
  than the bound, and the tally is the number of passes that are out; so will it be after the next
  such act.
* The first act that counts out at zero is a fault, if it is not that of somebody who has come to
  grief already.  It leaves the tally at zero and spoils it, whoever uses it from then on meets with
  a fault, and whoever comes to grief then cannot be counted out.
* A holder of a pass who comes to grief while somebody is counted does not spoil the tally: one less
  is counted, and that pass is gone and no other. -/
theorem tally_over_every_history (history : History s es) :
    (Covered (acts es) →
      s.tally = ⟨level (acts es), false⟩ ∧
      (∀ before a answer after, es = before ++ (a, answer) :: after →
        answer = a.told (level (acts before))) ∧
      ∀ a, s.Allows a → Covered (acts es ++ [a]) →
        ∃ u, s.step a = some (u, a.told (level (acts es)))) ∧
    ((∀ a ∈ acts es, a.isPassing = true) →
      (∀ before, before <+: acts es → (passesOut before).length < bound) →
      Covered (acts es) ∧ s.tally = ⟨s.passes.length, false⟩ ∧
      ∀ a, s.Allows a → a.isPassing = true → (a.passesAfter s.passes).length < bound →
        Covered (acts es ++ [a])) ∧
    (Covered (acts es) → level (acts es) = 0 →
      ∀ a, s.Allows a → a.countsOut = true → a.isFall = false →
      ∃ u, s.step a = some (u, .fault .belowZero) ∧ u.tally = ⟨0, true⟩ ∧
        ∀ v fs, Machine.Reaches recorded u v fs → Ruined u fs v) ∧
    (Covered (acts es) → 0 < level (acts es) → ∀ pass ∈ s.passes, s.step (.fall pass) =
      some (⟨⟨level (acts es) - 1, false⟩, s.passes.erase pass⟩, .done)) := by
  refine ⟨fun covered => ?covered, fun passing room => ?passing, fun covered nobody => ?zero,
    fun covered some pass out => ?grief⟩
  case covered =>
    obtain ⟨truthful, told⟩ := history.truthful covered
    refine ⟨truthful.tally, told, fun a allowed still => ?_⟩
    obtain ⟨u, taken, -⟩ := truthful.step still allowed
    exact ⟨u, taken⟩
  case passing =>
    obtain ⟨covered, even⟩ := history.covered_of_passing passing room
    obtain ⟨tally, passes⟩ := (history.truthful covered).1
    refine ⟨covered, ?_, fun a allowed next fits => ?_⟩
    · rw [tally, even, passes]
    · rw [passes, ← passesOut_concat] at fits
      rw [Allows, passes] at allowed
      exact (covered.concat_of_passing even next allowed fits).1
  case zero =>
    intro a allowed out sound
    have taken := (history.truthful covered).1.step_zero nobody out allowed
    rw [sound] at taken
    exact ⟨_, taken, rfl, fun v fs later => ruined_of_spoilt rfl later⟩
  case grief =>
    obtain ⟨tally, -⟩ := (history.truthful covered).1
    obtain ⟨n, counted⟩ := Nat.exists_eq_succ_of_ne_zero (Nat.ne_of_gt some)
    have changed : (Act.fall pass).change s.tally = (.ok (), ⟨level (acts es) - 1, false⟩) := by
      rw [tally, counted]
      exact decrement_succ n
    exact step_of_ok (fun p back => Option.some.inj back ▸ out) (by rw [tally]) changed

/-- Three have entered, one of them has come to grief, and two are counted out that are none of
them.  The next to leave does so at zero, and the last one can leave no more. -/
theorem tally_over_every_history_overdrawn :
    ∃ (s u : Turnstile Nat) (es : List (Act Nat × Answer)), History s es ∧
      acts es = [.enter 1, .enter 2, .enter 3, .get, .fall 1, .decrement, .decrement] ∧
      s.passes = [2, 3] ∧ s.tally = ⟨0, false⟩ ∧
      s.step (.leave 2) = some (u, .fault .belowZero) ∧ u.tally = ⟨0, true⟩ ∧
      ∃ v, u.step (.leave 3) = some (v, .fault .spoilt) := by
  have history : History _ _ := Machine.reaches_of_run
    [.enter 1, .enter 2, .enter 3, .get, .fall 1, .decrement, .decrement] rfl
  obtain ⟨truthful, -, overdrawn, -⟩ := tally_over_every_history history
  obtain ⟨tally, -, -⟩ := truthful (by decide)
  obtain ⟨u, taken, spoilt, ruined⟩ :=
    overdrawn (by decide) rfl (.leave 2) (by simp [Allows, Act.returned?]) rfl rfl
  cases taken
  exact ⟨_, _, _, history, rfl, rfl, tally, rfl, spoilt,
    (ruined _ _ .refl).next (.leave 3) (by simp [Allows, Act.returned?]) rfl⟩

end Turnstile

end LineService.Tally
