import LineService.Program.Serving
import LineService.Proofs.Service.Turns

/-!
# The services of the program are histories

A server that is ready to serve has a crew that has been founded and has been given nothing, so its
service opens a history (`Opening.of_bind`).  Whatever the program comes to while it serves, with
any clients and interrupts, continues one (`Serving.history_start`, `Serving.history_take`,
`Serving.history_interrupt`).  So what is known of histories is known of the program.
-/

set_option autoImplicit false

namespace LineService

namespace Service

variable {s t : Service} {n : Nat} {es : List Entry} {fs : List Event} {l : Label}

/-- **A server that is ready to serve** has a crew that has just been founded. -/
theorem Opening.of_bind {settings : Settings} {spawner : Nat → Except Net.Fault Unit}
    {listening : Except Net.Fault UInt16} {b : Bound Nat}
    (bound : (bind settings spawner listening).result = .ok b) :
    Opening settings.workers.toNat b.crew (bind (α := Nat) settings spawner listening).events := by
  cases founded : (Crew.found (α := Nat) settings.workers.toNat spawner).result with
  | error e => simp [bind, founded] at bound
  | ok crew =>
      cases listening with
      | error fault => simp [bind, founded] at bound
      | ok port =>
          simp only [bind, founded, Except.ok.injEq] at bound ⊢
          obtain rfl := bound
          obtain ⟨history, running, unused⟩ := Crew.history_of_found founded
          exact ⟨settings.workers.toNat_lt, history, running, unused⟩

/-- What a history can come to without a record it can come to with one. -/
theorem History.reaches (history : History n s es) (reached : Machine.Reaches step s t fs) :
    ∃ gs, History n t gs := by
  obtain ⟨gs, recording, -⟩ := reaches_iff_recorded.mp reached
  exact ⟨es ++ gs, history.trans recording⟩

theorem reaches_settle (w : Surroundings) (s : Service) :
    Machine.Reaches step s (s.settle w).1 (s.settle w).2 := by
  simpa [settle] using Machine.reaches_settle step (nextTurn w) s.stepBound (.refl (s := s))

theorem reaches_stepAndSettle (w : Surroundings) (s : Service) (l : Label) :
    Machine.Reaches step s (s.stepAndSettle w l).1 (s.stepAndSettle w l).2 := by
  unfold stepAndSettle
  cases taken : s.step l with
  | none => exact .refl
  | some r => exact (Machine.Reaches.single taken).trans (reaches_settle w r.1)

end Service

namespace Program.Serving

variable {w : Service.Surroundings} {x : Serving} {n : Nat} {es : List Service.Entry}

/-- **The program begins with a history.** -/
theorem history_start {settings : Settings} {spawner : Nat → Except Net.Fault Unit}
    {listening : Except Net.Fault UInt16} {b : Service.Bound Nat} (journal : Journal.Sink)
    (bound : (Service.bind settings spawner listening).result = .ok b) :
    ∃ es, Service.History settings.workers.toNat (start w journal b).service es := by
  have opening : Service.History settings.workers.toNat (.new b.crew 1) [] :=
    ⟨_, _, _, .of_bind bound, .refl⟩
  exact opening.reaches (Service.reaches_settle w _)

/-- **The program goes on with its history**, whatever happens to its service. -/
theorem history_take (history : Service.History n x.service es) (l : Service.Label) :
    ∃ fs, Service.History n (x.take w l).service fs :=
  history.reaches (Service.reaches_stepAndSettle w x.service l)

/-- An interrupt is a request to stop, or ends the program. -/
theorem history_interrupt (history : Service.History n x.service es) :
    ∃ fs, Service.History n (x.interrupt w).1.service fs := by
  cases again : x.service.reception.requested with
  | true => exact ⟨es, by simpa [interrupt, again] using history⟩
  | false =>
      simp only [interrupt, again, Bool.false_eq_true, if_false]
      exact history_take (x := { x with journal := _ }) history (.request 0)

end Program.Serving

end LineService
