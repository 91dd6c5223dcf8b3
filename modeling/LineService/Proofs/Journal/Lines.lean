import LineService.Journal.Record
import LineService.Net.Fault
import LineService.Proofs.Line.Framing

/-!
# Records that are lines

A record is written as one line if neither the time nor its text has a line feed in it
(`Record.oneLine_line`).  `Text.Flat` says so of a text.  Texts that are put together are flat
when their parts are (`Text.flat_append`), and so are numbers (`Text.flat_toString`), the texts
of lines (`Line.Clean.flat`) and the sentences that report what the network refuses, if the
system has no line feed in its own words (`Net.Fault.flat_message`).
-/

set_option autoImplicit false

namespace LineService

/-! ## Texts without line feeds -/

namespace Text

/-- The text has no line feed. -/
def Flat (text : String) : Prop := '\n' ∉ text.toList

instance (text : String) : Decidable (Flat text) :=
  inferInstanceAs (Decidable ('\n' ∉ text.toList))

@[simp] theorem flat_append {first second : String} :
    Flat (first ++ second) ↔ Flat first ∧ Flat second := by
  simp [Flat, not_or]

/-- A number is written with digits. -/
@[simp] theorem flat_toString (n : Nat) : Flat (toString n) := by
  intro found
  rw [Nat.toString_eq_ofList_toDigits, String.toList_ofList] at found
  exact absurd (Nat.isDigit_of_mem_toDigits (by decide) (by decide) found) (by decide)

end Text

theorem Line.Clean.flat {text : String} (clean : Line.Clean text) : Text.Flat text := clean.free

/-- A fault is reported on one line if the system has no line feed in its words. -/
theorem Net.Fault.flat_message {f : Net.Fault} (flat : Text.Flat f.text) :
    Text.Flat f.message := by
  unfold Net.Fault.message
  split
  · simp only [Net.numbered, Text.flat_append, Text.flat_toString, flat, true_and]
    decide
  · exact flat

theorem Line.Trouble.flat_message {t : Line.Trouble}
    (fault : ∀ f, t = .fault f → Text.Flat f.text) : Text.Flat t.message := by
  cases t with
  | tooLong =>
      have number := Text.flat_toString Line.limit
      unfold Line.Trouble.message
      generalize toString Line.limit = digits at number ⊢
      simp only [Text.flat_append, number, and_true]
      decide
  | fault f => exact Net.Fault.flat_message (fault f rfl)

/-! ## Records -/

namespace Journal

/-- The text is one line: it has a line feed at its end, and no other. -/
structure OneLine (text : String) : Prop where
  one : text.toList.count '\n' = 1
  last : text.toList.getLast? = some '\n'

theorem Level.flat_name (level : Level) : Text.Flat level.name := by
  cases level <;> decide

/-- **A record is written as one line** if neither the time nor its text has a line feed. -/
theorem Record.oneLine_line {now : String} {r : Record} (time : Text.Flat now)
    (text : Text.Flat r.text) : OneLine (r.line now) := by
  have front : Text.Flat ("[" ++ now ++ "] [" ++ r.level.name ++ "] " ++ r.text) := by
    simp only [Text.flat_append, time, text, r.level.flat_name, and_true]
    decide
  have whole : (r.line now).toList =
      ("[" ++ now ++ "] [" ++ r.level.name ++ "] " ++ r.text).toList ++ ['\n'] :=
    String.toList_append
  constructor
  · rw [whole, List.count_append, List.count_eq_zero.mpr front]
    rfl
  · rw [whole, List.getLast?_concat]

end Journal

end LineService
