import LineService.Text.Blank
import Mathlib.Data.List.DropRight

/-!
# What is left of a text

`dropEnd` takes off a list what is to be dropped at its end and nothing else
(`dropEnd_append_rtakeWhile`).  Elements to be dropped may be added at the end without making a
difference (`dropEnd_append_of_all`), and what stands behind an element that is kept is dealt with
by itself (`dropEnd_append`).

`strip` does so with the blanks at both ends of a text: only these go (`exists_stripList`), and
what they stood around is left (`stripList_append`).
-/

set_option autoImplicit false

namespace LineService.Text

/-! ## The end of a list -/

section DropEnd

variable {α : Type} {p : α → Bool} {xs ys : List α}

/-- Nothing else is dropped. -/
theorem dropEnd_append_rtakeWhile (p : α → Bool) (xs : List α) :
    dropEnd p xs ++ xs.rtakeWhile p = xs := List.rdropWhile_append_rtakeWhile

/-- What is added at the end only to be dropped makes no difference. -/
theorem dropEnd_append_of_all (xs : List α) (gone : ∀ a ∈ ys, p a = true) :
    dropEnd p (xs ++ ys) = dropEnd p xs := by
  have gone' : ∀ a ∈ ys.reverse, p a = true := fun a member => gone a (List.mem_reverse.mp member)
  rw [dropEnd, List.reverse_append, List.dropWhile_append_of_pos gone', dropEnd]

/-- Behind an element that is kept, what follows is dealt with by itself. -/
theorem dropEnd_append (kept : ∀ a, xs.getLast? = some a → p a = false) (ys : List α) :
    dropEnd p (xs ++ ys) = xs ++ dropEnd p ys := by
  induction ys using List.reverseRecOn with
  | nil => rw [List.append_nil, dropEnd_eq_self kept, dropEnd_nil, List.append_nil]
  | append_singleton ys y ih =>
      rw [← List.append_assoc]
      cases here : p y with
      | true => rw [dropEnd_concat_of_pos _ here, dropEnd_concat_of_pos _ here, ih]
      | false =>
          rw [dropEnd_concat_of_neg _ here, dropEnd_concat_of_neg _ here, List.append_assoc]

end DropEnd

/-! ## Blanks at both ends -/

variable {cs before core after : List Char}

/-- What is left, neither beginning nor ending in a blank, is what blanks are taken off from. -/
theorem stripList_append (blank : ∀ c ∈ before, isBlank c = true)
    (first : ∀ c, core.head? = some c → isBlank c = false)
    (last : ∀ c, core.getLast? = some c → isBlank c = false)
    (blank' : ∀ c ∈ after, isBlank c = true) : stripList (before ++ core ++ after) = core := by
  cases core with
  | nil =>
      have gone : after.dropWhile isBlank = [] := List.dropWhile_eq_nil_iff.mpr blank'
      rw [stripList, List.append_nil, List.dropWhile_append_of_pos blank, gone, dropEnd_nil]
  | cons c core =>
      have kept : ¬ isBlank c = true := by rw [first c rfl]; exact Bool.false_ne_true
      rw [stripList, List.append_assoc, List.dropWhile_append_of_pos blank, List.cons_append,
        List.dropWhile_cons_of_neg kept, ← List.cons_append, dropEnd_append_of_all _ blank',
        dropEnd_eq_self last]

/-- Only blanks are taken off. -/
theorem exists_stripList (cs : List Char) : ∃ before after,
    cs = before ++ stripList cs ++ after ∧ (∀ c ∈ before, isBlank c = true) ∧
      ∀ c ∈ after, isBlank c = true := by
  refine ⟨cs.takeWhile isBlank, (cs.dropWhile isBlank).rtakeWhile isBlank, ?_,
    fun c => List.mem_takeWhile_imp, fun c => List.mem_rtakeWhile_imp⟩
  rw [stripList, List.append_assoc, dropEnd_append_rtakeWhile, List.takeWhile_append_dropWhile]

/-- Nothing is left exactly where there is nothing but blanks. -/
theorem stripList_eq_nil_iff : stripList cs = [] ↔ ∀ c ∈ cs, isBlank c = true := by
  constructor
  · intro nothing c member
    obtain ⟨before, after, split, blank, blank'⟩ := exists_stripList cs
    rw [nothing, List.append_nil] at split
    rw [split] at member
    exact (List.mem_append.mp member).elim (blank c) (blank' c)
  · intro blank
    rw [stripList, List.dropWhile_eq_nil_iff.mpr blank, dropEnd_nil]

theorem strip_eq_empty_iff {s : String} : strip s = "" ↔ ∀ c ∈ s.toList, isBlank c = true := by
  rw [strip, ← stripList_eq_nil_iff, ← String.toList_inj, String.toList_ofList]
  rfl

end LineService.Text
