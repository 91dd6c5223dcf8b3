import LineService.Text.Blank
import LineService.Text.Case

/-!
# Plain names

A plain name is made of letters and digits of ASCII and underscores (`PlainName`).  In small letters
it is a plain name again (`PlainName.small`), and its own small form (`PlainName.lower_lower`).
Small forms of plain names are put together from those of their characters.  That would not be so of
any text: beyond ASCII a small form may depend on the characters around it.
-/

set_option autoImplicit false

namespace LineService

namespace Text

/-- Characters of ASCII have their small forms one by one, wherever they stand. -/
theorem lowerAfter_of_ascii {cs : List Char} (ascii : ∀ ch ∈ cs, ch.toNat < 0x80)
    (before : List Char) : lowerAfter before cs = cs.map Char.toLower := by
  induction cs generalizing before with
  | nil => rfl
  | cons ch cs ih =>
      rw [List.forall_mem_cons] at ascii
      have noSigma : ch ≠ 'Σ' := by
        rintro rfl
        exact absurd ascii.1 (by decide)
      rw [lowerAfter, if_neg noSigma, lowerChar, if_pos ascii.1, ih ascii.2]
      rfl

theorem toList_lower_of_ascii {s : String} (ascii : ∀ ch ∈ s.toList, ch.toNat < 0x80) :
    (lower s).toList = s.toList.map Char.toLower := by
  rw [lower, String.toList_ofList, lowerAfter_of_ascii ascii]

theorem lower_append_of_ascii {s t : String} (ascii : ∀ ch ∈ s.toList, ch.toNat < 0x80)
    (ascii' : ∀ ch ∈ t.toList, ch.toNat < 0x80) : lower (s ++ t) = lower s ++ lower t := by
  have both : ∀ ch ∈ (s ++ t).toList, ch.toNat < 0x80 := by
    rw [String.toList_append, List.forall_mem_append]
    exact ⟨ascii, ascii'⟩
  rw [← String.toList_inj, toList_lower_of_ascii both, String.toList_append, String.toList_append,
    List.map_append, toList_lower_of_ascii ascii, toList_lower_of_ascii ascii']

end Text

namespace Settings

/-- The characters of plain names. -/
def isWordChar (ch : Char) : Bool := ch.isAlphanum || ch == '_'

theorem toNat_of_isUpper {ch : Char} (upper : ch.isUpper = true) :
    65 ≤ ch.toNat ∧ ch.toNat ≤ 90 := by
  obtain ⟨low, high⟩ := of_decide_eq_true upper
  exact ⟨UInt32.le_iff_toNat_le.mp low, UInt32.le_iff_toNat_le.mp high⟩

theorem toNat_of_isLower {ch : Char} (lower : ch.isLower = true) :
    97 ≤ ch.toNat ∧ ch.toNat ≤ 122 := by
  obtain ⟨low, high⟩ := Bool.and_eq_true_iff.mp lower
  exact ⟨UInt32.le_iff_toNat_le.mp (of_decide_eq_true low),
    UInt32.le_iff_toNat_le.mp (of_decide_eq_true high)⟩

theorem toNat_of_wordChar {ch : Char} (word : isWordChar ch = true) :
    48 ≤ ch.toNat ∧ ch.toNat < 123 := by
  have kinds : ((ch.isUpper || ch.isLower) || ch.isDigit || ch == '_') = true := word
  simp only [Bool.or_eq_true, beq_iff_eq] at kinds
  rcases kinds with ((upper | lower) | digit) | rfl
  · have range := toNat_of_isUpper upper
    omega
  · have range := toNat_of_isLower lower
    omega
  · have range := Char.isDigit_iff_toNat.mp digit
    simp only [Char.reduceToNat] at range
    omega
  · decide

theorem ascii_of_wordChar {ch : Char} (word : isWordChar ch = true) : ch.toNat < 0x80 :=
  Nat.lt_trans (toNat_of_wordChar word).2 (by decide)

/-- The small form of a letter is a letter, and its own small form. -/
theorem wordChar_toLower {ch : Char} (word : isWordChar ch = true) :
    isWordChar ch.toLower = true ∧ ch.toLower.toLower = ch.toLower := by
  have few : ∀ n < 123, isWordChar (Char.ofNat n) = true →
      isWordChar (Char.ofNat n).toLower = true ∧
        (Char.ofNat n).toLower.toLower = (Char.ofNat n).toLower := by
    decide
  have known := few ch.toNat (toNat_of_wordChar word).2
  rw [Char.ofNat_toNat] at known
  exact known word

theorem isBlank_of_wordChar {ch : Char} (word : isWordChar ch = true) :
    Text.isBlank ch = false := by
  obtain ⟨low, high⟩ := toNat_of_wordChar word
  simp only [Text.isBlank, Bool.or_eq_false_iff, Bool.and_eq_false_iff, decide_eq_false_iff_not,
    beq_eq_false_iff_ne]
  omega

theorem ne_of_wordChar {ch other : Char} (word : isWordChar ch = true)
    (no : isWordChar other = false) : ch ≠ other := by
  rintro rfl
  exact absurd word (by rw [no]; exact Bool.false_ne_true)

/-- A plain name: letters and digits of ASCII and underscores, at least one. -/
structure PlainName where
  text : String
  nonempty : text ≠ ""
  plain : ∀ ch ∈ text.toList, isWordChar ch = true

theorem PlainName.exists_first (key : PlainName) :
    ∃ first more, key.text.toList = first :: more ∧ isWordChar first = true := by
  have nonempty : key.text.toList ≠ [] := by
    rw [ne_eq, ← String.toList_empty, String.toList_inj]
    exact key.nonempty
  obtain ⟨first, more, characters⟩ := List.exists_cons_of_ne_nil nonempty
  exact ⟨first, more, characters, key.plain first (characters ▸ List.mem_cons_self)⟩

namespace PlainName

variable (key : PlainName)

theorem ascii : ∀ ch ∈ key.text.toList, ch.toNat < 0x80 :=
  fun ch member => ascii_of_wordChar (key.plain ch member)

theorem toList_lower : (Text.lower key.text).toList = key.text.toList.map Char.toLower :=
  Text.toList_lower_of_ascii key.ascii

/-- The name in small letters. -/
def small : PlainName where
  text := Text.lower key.text
  nonempty := by
    obtain ⟨first, more, characters, -⟩ := key.exists_first
    rw [ne_eq, ← String.toList_inj, key.toList_lower, characters]
    exact List.cons_ne_nil _ _
  plain := by
    rw [key.toList_lower, List.forall_mem_map]
    exact fun ch member => (wordChar_toLower (key.plain ch member)).1

/-- Small letters stay as they are. -/
theorem lower_lower : Text.lower (Text.lower key.text) = Text.lower key.text := by
  rw [← String.toList_inj]
  calc (Text.lower (Text.lower key.text)).toList
      _ = (Text.lower key.text).toList.map Char.toLower := key.small.toList_lower
      _ = key.text.toList.map (Char.toLower ∘ Char.toLower) := by
          rw [key.toList_lower, List.map_map]
      _ = key.text.toList.map Char.toLower :=
          List.map_congr_left fun ch member => (wordChar_toLower (key.plain ch member)).2
      _ = (Text.lower key.text).toList := key.toList_lower.symm

end PlainName

end Settings

end LineService
