import LineService.Line.Basic
import LineService.Proofs.Text.Ends

/-!
# Terminators at the end of a text

Trimming cuts off the carriage returns and line feeds that a text ends in, and nothing else:
`trim_eq_iff` says which text is left.  A text is left as it is exactly if it ends in neither
(`trim_eq_self_iff`).
-/

set_option autoImplicit false

namespace LineService.Line

variable {text rest front back : String}

theorem isTerminator_iff {c : Char} : isTerminator c = true ↔ c = '\r' ∨ c = '\n' := by
  simp [isTerminator]

/-- Terminators behind a text make no difference. -/
theorem trim_append_of_all (text : String) (ends : ∀ c ∈ back.toList, c = '\r' ∨ c = '\n') :
    trim (text ++ back) = trim text := by
  rw [trim, String.toList_append,
    Text.dropEnd_append_of_all _ fun c member => isTerminator_iff.mpr (ends c member), trim]

/-- Behind another character a text is trimmed by itself. -/
theorem trim_append (kept : ∀ c, front.toList.getLast? = some c → isTerminator c = false)
    (back : String) : trim (front ++ back) = front ++ trim back := by
  rw [trim, String.toList_append, Text.dropEnd_append kept, String.ofList_append,
    String.ofList_toList, trim]

/-- Nothing is left to trim. -/
theorem trim_trim (text : String) : trim (trim text) = trim text := by
  rw [trim, Text.dropEnd_eq_self, String.ofList_toList]
  intro c last
  rw [trim, String.toList_ofList] at last
  exact Text.getLast?_dropEnd last

/-- A text stays as it is exactly if it does not end in a terminator. -/
theorem trim_eq_self_iff : trim text = text ↔
    text.toList.getLast? ≠ some '\r' ∧ text.toList.getLast? ≠ some '\n' := by
  constructor
  · intro same
    have kept : ∀ c, text.toList.getLast? = some c → isTerminator c = false := by
      intro c last
      rw [← same, trim, String.toList_ofList] at last
      exact Text.getLast?_dropEnd last
    exact ⟨fun last => absurd (kept _ last) (by decide),
      fun last => absurd (kept _ last) (by decide)⟩
  · rintro ⟨noReturn, noFeed⟩
    rw [trim, Text.dropEnd_eq_self, String.ofList_toList]
    intro c last
    refine Bool.eq_false_iff.mpr fun ends => ?_
    rcases isTerminator_iff.mp ends with rfl | rfl
    · exact noReturn last
    · exact noFeed last

/-- **What trimming leaves**: the front of a text that ends in no terminator and is followed by
nothing else. -/
theorem trim_eq_iff : trim text = rest ↔
    (rest.toList.getLast? ≠ some '\r' ∧ rest.toList.getLast? ≠ some '\n') ∧
      ∃ back, text = rest ++ back ∧ ∀ c ∈ back.toList, c = '\r' ∨ c = '\n' := by
  constructor
  · rintro rfl
    have whole := Text.dropEnd_append_rtakeWhile isTerminator text.toList
    refine ⟨trim_eq_self_iff.mp (trim_trim text),
      String.ofList (text.toList.rtakeWhile isTerminator), ?_, ?_⟩
    · rw [trim, ← String.ofList_append, whole, String.ofList_toList]
    · intro c member
      rw [String.toList_ofList] at member
      exact isTerminator_iff.mp (List.mem_rtakeWhile_imp member)
  · rintro ⟨last, back, rfl, ends⟩
    rw [trim_append_of_all _ ends, trim_eq_self_iff.mpr last]

end LineService.Line
