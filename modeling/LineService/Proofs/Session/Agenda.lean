import LineService.Proofs.Line.Framing
import LineService.Proofs.Session.Answers

/-!
# The agenda of a stream that goes on

What a stream of whole lines says is not changed by what follows, so neither is the agenda, as
far as it reaches (`getElem?_agenda_append`).  It may reach less far than the stream: then a line
asked to quit or a piece was too long, and nothing that follows is answered
(`agenda_append_of_short`).

A session that has closed its stream has answered the whole agenda
(`Course.length_agenda_of_ending`).  A session that waits for a line after whole lines has
answered every one of them (`Course.waiting_length`): would the agenda reach less far, the session
would not wait.
-/

set_option autoImplicit false

namespace LineService.Session

variable {s t : Session} {peer : String} {l : Label} {es fs : List Event} {bytes more : List UInt8}
  {xs ys : List Line.Reading}

/-! ## Readings that follow others -/

/-- Whether a reading is answered, and what, is said by the readings up to it. -/
theorem getElem?_agenda_append {k : Nat} (less : k < xs.length) :
    (agenda (xs ++ ys))[k]? = (agenda xs)[k]? := by
  induction xs generalizing k with
  | nil => simp at less
  | cons x xs ih =>
      cases x with
      | line text size =>
          simp only [List.cons_append, agenda]
          split
          · rfl
          · cases k with
            | zero => rfl
            | succ k => simpa using ih (by simpa using less)
      | finished | trouble => rfl

theorem length_agenda_le (xs : List Line.Reading) : (agenda xs).length ≤ xs.length := by
  induction xs with
  | nil => simp [agenda]
  | cons x xs ih =>
      cases x with
      | line text size =>
          simp only [agenda]
          split
          · simp
          · simpa using ih
      | finished | trouble => simp [agenda]

/-- An agenda that ends before its stream ends for good. -/
theorem agenda_append_of_short (short : (agenda xs).length < xs.length) :
    agenda (xs ++ ys) = agenda xs := by
  induction xs with
  | nil => simp at short
  | cons x xs ih =>
      cases x with
      | line text size =>
          simp only [List.cons_append, agenda] at short ⊢
          split
          · rfl
          · rename_i further
            rw [if_neg further] at short
            rw [ih (by simpa using short)]
      | finished | trouble => rfl

/-- As long as no line asks to quit, every line is answered. -/
theorem getElem?_agenda {k size : Nat} {text : String} (here : xs[k]? = some (.line text size))
    (going : ∀ j, j < k → ∃ t size, xs[j]? = some (.line t size) ∧ Line.trim t ≠ "QUIT") :
    (agenda xs)[k]? = some text := by
  induction k generalizing xs with
  | zero =>
      cases xs with
      | nil => simp at here
      | cons x xs =>
          obtain rfl : x = .line text size := by simpa using here
          simp only [agenda]
          split <;> rfl
  | succ k ih =>
      cases xs with
      | nil => simp at here
      | cons x xs =>
          obtain ⟨t, size, first, further⟩ := going 0 (Nat.succ_pos k)
          obtain rfl : x = .line t size := by simpa using first
          simp only [agenda, if_neg further, List.getElem?_cons_succ]
          exact ih (by simpa using here) fun j less => going (j + 1) (Nat.succ_lt_succ less)

/-- Nothing is answered after a line that asks to quit. -/
theorem getElem?_agenda_of_quit {j k size : Nat} {text : String}
    (here : xs[j]? = some (.line text size)) (quits : Line.trim text = "QUIT") (later : j < k) :
    (agenda xs)[k]? = none := by
  induction xs generalizing j k with
  | nil => simp at here
  | cons x xs ih =>
      obtain ⟨k, rfl⟩ := Nat.exists_eq_succ_of_ne_zero (Nat.ne_zero_of_lt later)
      cases x with
      | line t size =>
          simp only [agenda]
          split
          · rfl
          · rename_i further
            cases j with
            | zero =>
                obtain ⟨rfl, -⟩ : t = text ∧ _ := by simpa using here
                exact absurd quits further
            | succ j => exact ih (by simpa using here) (Nat.lt_of_succ_lt_succ later)
      | finished | trouble => rfl

/-! ## Sessions that have closed their stream -/

/-- The stream is closed at the end of a session that was served. -/
theorem ending_of_closed (closed : s.isOpen = false) (served : s.phase ≠ .discarded) :
    s.Ending := by
  cases phase : s.phase <;> simp_all [isOpen, Ending]

/-- What has been sent are all the answers, unless one is due or sending has failed. -/
theorem Course.sent_eq (course : Course peer s es) (able : s.mute = none)
    (silent : ∀ r, s.phase ≠ .replying r) : (asked es).map Question.answer = s.sent := by
  obtain ⟨owed, answers, owes⟩ := course.answers
  cases owes with
  | nothing => simpa using answers
  | due replying => exact absurd replying (silent _)
  | unsent _ _ mute => exact absurd able mute

/-- **A session that is at its end has answered the whole agenda**, if it could send everything. -/
theorem Course.length_agenda_of_ending (course : Course peer s es) (able : s.mute = none)
    (expecting : s.inbox.outlook = .expecting) (ending : s.Ending) (more : List UInt8) :
    (agenda (Line.all (arrived es ++ more))).length = s.sent.length := by
  have silent : ∀ r, s.phase ≠ .replying r := by
    rintro r replying
    simp [Ending, replying] at ending
  have sent := congrArg List.length (course.sent_eq able silent)
  rw [List.length_map] at sent
  rcases course.follows (by simp [expecting]) (.inl expecting) with whole | ⟨-, more, -⟩
  · have nothing : s.ahead (Line.all (s.inbox.pending ++ more)) = [] := by
      rcases ending with phase | phase | phase | phase <;> simp [ahead, phase]
    rw [whole, nothing, List.append_nil, List.length_map, sent]
  · omega

/-! ## Sessions that wait -/

/-- A session whose stream is open and that has no next turn waits for a line. -/
theorem waits_of_stuck (opened : s.isOpen = true) {now : String} {active : Nat}
    (stuck : s.step (.turn now active) = none) : s.phase = .reading ∧ s.inbox.read? = none := by
  rw [step, Option.map_eq_none_iff] at stuck
  cases phase : s.phase with
  | reading =>
      refine ⟨rfl, ?_⟩
      simp only [turn, phase] at stuck
      split at stuck
      · assumption
      · cases stuck
  | leaving | left | «over» | discarded => simp [isOpen, phase] at opened
  | fresh | counted | answering _ | replying _ | closing => simp [turn, phase] at stuck

/-- What has not been read is the end of what has arrived. -/
theorem Course.pending_suffix (course : Course peer s es) : s.inbox.pending <:+ arrived es := by
  induction course with
  | refl => exact List.suffix_refl _
  | @tail s t es fs l before taken ih =>
      have shrinks {r : Line.Reading} {i : Line.Inbox} (took : s.inbox.Read r i) :
          i.pending <:+ arrived es := by
        cases took with
        | settled | last => exact (Line.next_snd_suffix _).trans ih
        | lost => exact List.nil_suffix
      cases turn_of_step taken with
      | received bytes =>
          obtain ⟨read, whole⟩ := ih
          exact ⟨read, by simp [← whole]⟩
      | aside _ _ _ _ _ pending => simpa [pending] using ih
      | read _ _ _ took | heardOut _ _ _ took | troubled _ _ _ took => simpa using shrinks took
      | _ => simpa using ih

/-- **A session that waits has answered every line that has arrived**, if all lines are whole. -/
theorem Course.waiting_length (course : Course peer s es) (able : s.mute = none)
    (expecting : s.inbox.outlook = .expecting) (reading : s.phase = .reading)
    (waits : s.inbox.read? = none) (whole : Line.Whole (arrived es)) :
    s.sent.length = (Line.all (arrived es)).length := by
  have drained : s.inbox.pending = [] := by
    refine Decidable.byContradiction fun nonempty => ?_
    have settled := (whole.suffix course.pending_suffix).settled nonempty
    simp [Line.Inbox.read?, settled] at waits
  have sent := congrArg List.length (course.sent_eq able (by simp [reading]))
  rw [List.length_map] at sent
  have follows (more : List UInt8) : agenda (Line.all (arrived es ++ more)) =
      (asked es).map Question.line ++ agenda (Line.all more) := by
    rcases course.follows (by simp [expecting]) (.inl expecting) with all | ⟨ending, -⟩
    · simpa [ahead, reading, drained] using all
    · simp [Ending, reading] at ending
  have now := follows []
  simp only [List.append_nil, Line.all_nil, agenda] at now
  refine Nat.le_antisymm ?_ (Nat.le_of_not_lt fun short => ?_)
  · rw [← sent, ← List.length_map Question.line, ← now]
    exact length_agenda_le _
  · -- an agenda that had ended before the stream would have no place for another line
    have further : agenda (Line.all (Line.write "PING")) = ["PING"] := by
      have clean : ∀ t ∈ ["PING"], Line.Clean t := by decide
      have reads := (Line.all_write_iff clean).mpr (by decide)
      simp only [List.flatMap_singleton, List.map_singleton] at reads
      rw [reads]
      rfl
    have longer := follows (Line.write "PING")
    rw [whole.all_append, agenda_append_of_short (by rw [now, List.length_map]; omega), now,
      further] at longer
    simp at longer

end LineService.Session
