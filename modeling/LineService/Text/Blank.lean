/-!
# Blanks and the ends of a text

A character is blank when it has the property White_Space of the Unicode
standard: the control characters from tabulator to carriage return, the space,
next line, and the separators of the general punctuation blocks.  The zero-width
characters are not blank.  `strip` removes the blanks at both ends of a text,
`dropEnd` is the general form for one end, used for line terminators as well, and
`after?` takes a given beginning off a text.
-/

namespace LineService.Text

/-- The property White_Space. -/
def isBlank (c : Char) : Bool :=
  let n := c.toNat
  (9 ≤ n && n ≤ 13) || n == 0x20 || n == 0x85 || n == 0xA0 || n == 0x1680 ||
    (0x2000 ≤ n && n ≤ 0x200A) || n == 0x2028 || n == 0x2029 || n == 0x202F ||
    n == 0x205F || n == 0x3000

/-- A list without the longest run of elements satisfying `p` at its end. -/
def dropEnd {α : Type} (p : α → Bool) (xs : List α) : List α :=
  (xs.reverse.dropWhile p).reverse

/-- Characters without the blanks at both ends. -/
def stripList (cs : List Char) : List Char :=
  dropEnd isBlank (cs.dropWhile isBlank)

/-- A text without the blanks at both ends. -/
def strip (s : String) : String := String.ofList (stripList s.toList)

/-- The rest of a text that begins with `opening`. -/
def after? (opening s : String) : Option String :=
  if opening.toList.isPrefixOf s.toList then
    some (String.ofList (s.toList.drop opening.toList.length))
  else none

/-! ## What `dropEnd` does at the end of a list -/

section DropEnd

variable {α : Type} {p : α → Bool} {xs : List α} {a : α}

@[simp]
theorem dropEnd_nil : dropEnd p [] = [] := rfl

/-- An element to be dropped at the very end goes, whatever stands before it. -/
theorem dropEnd_concat_of_pos {a : α} (xs : List α) (h : p a = true) :
    dropEnd p (xs ++ [a]) = dropEnd p xs := by
  simp [dropEnd, h]

/-- An element to be kept at the very end keeps everything. -/
theorem dropEnd_concat_of_neg {a : α} (xs : List α) (h : p a = false) :
    dropEnd p (xs ++ [a]) = xs ++ [a] := by
  simp [dropEnd, h]

/-- What is kept is the beginning of the list. -/
theorem dropEnd_prefix (p : α → Bool) (xs : List α) : dropEnd p xs <+: xs := by
  rw [← List.reverse_suffix, dropEnd, List.reverse_reverse]
  exact List.dropWhile_suffix p

/-- What is kept does not end in an element to be dropped. -/
theorem getLast?_dropEnd (h : (dropEnd p xs).getLast? = some a) : p a = false := by
  rw [dropEnd, List.getLast?_reverse] at h
  have kept := List.head?_dropWhile_not p xs.reverse
  rw [h] at kept
  simpa using kept

/-- Nothing is dropped where the last element is to be kept. -/
theorem dropEnd_eq_self (h : ∀ a, xs.getLast? = some a → p a = false) : dropEnd p xs = xs := by
  rcases List.eq_nil_or_concat xs with rfl | ⟨ys, y, rfl⟩
  · rfl
  · rw [List.concat_eq_append] at h ⊢
    exact dropEnd_concat_of_neg ys (h y (by simp))

end DropEnd

/-! ## Taking a beginning off -/

/-- Only the beginning is taken off. -/
theorem toList_of_after? {opening s rest : String} (h : after? opening s = some rest) :
    s.toList = opening.toList ++ rest.toList := by
  unfold after? at h
  split at h
  · rename_i begins
    obtain ⟨more, split⟩ := List.isPrefixOf_iff_prefix.mp begins
    cases h
    rw [String.toList_ofList, ← split, List.drop_left]
  · cases h

/-- What stands behind the beginning is the rest. -/
theorem after?_append (opening rest : String) : after? opening (opening ++ rest) = some rest := by
  simp [after?]

end LineService.Text
