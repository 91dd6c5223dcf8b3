import LineService.Moment
import LineService.Proofs.Line.Framing

/-!
# What is written of a moment

The text of a moment consists of digits and of the marks between them (`of_mem_write`), and ends
with a digit.  So it is the text of a line, whatever its numbers are (`clean_write`).  When they
have no more digits than they are written with, as those have that a clock shows, the text has 19
characters (`length_write`) and fits into a line (`fits_write`).
-/

set_option autoImplicit false

namespace LineService.Moment

variable {width n : Nat} {c : Char} {m : Moment}

/-! ## Numbers -/

theorem toList_padded (width n : Nat) :
    (padded width n).toList = (Nat.toDigits 10 n).leftpad width '0' := by
  rw [padded, String.toList_ofList, Nat.toString_eq_ofList_toDigits, String.toList_ofList]

theorem isDigit_of_mem_padded (found : c ∈ (padded width n).toList) : c.isDigit = true := by
  rw [toList_padded, List.leftpad, List.mem_append] at found
  rcases found with filling | digit
  · rw [List.eq_of_mem_replicate filling]
    decide
  · exact Nat.isDigit_of_mem_toDigits (by decide) (by decide) digit

/-- A text that ends with a number ends with a digit. -/
theorem isDigit_of_getLast?_padded {text : List Char}
    (last : (text ++ (padded width n).toList).getLast? = some c) : c.isDigit = true := by
  obtain ⟨digit, there⟩ : ∃ digit, (padded width n).toList.getLast? = some digit := by
    rw [toList_padded, List.leftpad, List.getLast?_append,
      List.getLast?_eq_some_getLast Nat.toDigits_ne_nil, Option.some_or]
    exact ⟨_, rfl⟩
  rw [List.getLast?_append, there, Option.some_or, Option.some.injEq] at last
  exact last ▸ isDigit_of_mem_padded (List.mem_of_getLast? there)

/-- A number that has no more digits than it is written with takes just these. -/
theorem length_padded (any : 0 < width) (narrow : n < 10 ^ width) :
    (padded width n).toList.length = width := by
  rw [toList_padded, List.length_leftpad]
  exact Nat.max_eq_left ((Nat.length_toDigits_le_iff (by decide) any).mpr narrow)

/-! ## Moments -/

/-- The text of a moment consists of digits and of the marks between them. -/
theorem of_mem_write (m : Moment) :
    ∀ c ∈ m.write.toList, c.isDigit = true ∨ c ∈ ['-', ' ', ':'] := by
  have number (width n : Nat) :
      ∀ c ∈ (padded width n).toList, c.isDigit = true ∨ c ∈ ['-', ' ', ':'] :=
    fun _ found => .inl (isDigit_of_mem_padded found)
  have mark {d : Char} (known : d ∈ ['-', ' ', ':']) :
      ∀ c ∈ [d], c.isDigit = true ∨ c ∈ ['-', ' ', ':'] :=
    fun _ found => .inr (List.mem_singleton.mp found ▸ known)
  simp only [write, String.toList_append, List.forall_mem_append, and_assoc]
  exact ⟨number _ _, mark (by decide), number _ _, mark (by decide), number _ _,
    mark (by decide), number _ _, mark (by decide), number _ _, mark (by decide), number _ _⟩

/-- **A moment is written as a line.** -/
theorem clean_write (m : Moment) : Line.Clean m.write where
  free found := absurd (of_mem_write m _ found) (by decide)
  last last := by
    rw [write, String.toList_append] at last
    exact absurd (isDigit_of_getLast?_padded last) (by decide)

/-- The numbers of the moment have no more digits than they are written with. -/
structure Narrow (m : Moment) : Prop where
  year : m.year < 10000
  month : m.month < 100
  day : m.day < 100
  hour : m.hour < 100
  minute : m.minute < 100
  second : m.second < 100

theorem length_write (narrow : m.Narrow) : m.write.toList.length = 19 := by
  have four : (padded 4 m.year.toNat).toList.length = 4 :=
    length_padded (by decide) (Int.toNat_lt' (by decide) |>.mpr narrow.year)
  have two {n : Nat} (small : n < 100) : (padded 2 n).toList.length = 2 :=
    length_padded (by decide) small
  simp only [write, String.toList_append, List.length_append, four, two narrow.month,
    two narrow.day, two narrow.hour, two narrow.minute, two narrow.second]
  rfl

/-- **What is written of a moment fits into a line.** -/
theorem fits_write (narrow : m.Narrow) : Line.Fits m.write := by
  have few := Utf8.length_encode_le m.write
  rw [length_write narrow] at few
  have limit : Line.limit = 4096 := rfl
  rw [Line.fits_iff]
  omega

end LineService.Moment
