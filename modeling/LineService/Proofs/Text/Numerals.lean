import LineService.Text.Numeral
import Mathlib.Data.List.Induction
import Mathlib.Data.Nat.Digits.Defs

/-!
# What a numeral writes

`Digits cs n` says that a run of digits writes the number `n`: each place counts ten times the one
behind it.  A numeral is such a run, of any length and with any number of leading zeros, behind an
optional sign (`Unsigned`, `Signed`).

Reading a numeral within bounds gives the number it writes exactly if that lies between them, and
nothing in all other cases (`natural?_eq_some_iff`, `integer?_eq_some_iff`).  The decimal form of a
number is one of the numerals that write it (`unsigned_toString`).
-/

set_option autoImplicit false

namespace LineService.Numeral

variable {cs : List Char} {n max : Nat} {i low high : Int} {s : String}

/-! ## Runs of digits -/

/-- What a digit counts. -/
def digit (c : Char) : Nat := c.toNat - '0'.toNat

/-- Digits, at least one, that write a number. -/
structure Digits (cs : List Char) (n : Nat) : Prop where
  nonempty : cs ≠ []
  digits : ∀ c ∈ cs, c.isDigit = true
  value : Nat.ofDigits 10 (cs.reverse.map digit) = n

/-- Counting the places from the end comes to what reading the digits from the front does. -/
theorem ofDigitChars_eq (cs : List Char) :
    Nat.ofDigitChars 10 cs 0 = Nat.ofDigits 10 (cs.reverse.map digit) := by
  induction cs using List.reverseRecOn with
  | nil => rfl
  | append_singleton cs c ih =>
      rw [Nat.ofDigitChars_append, ih, Nat.ofDigitChars_cons, Nat.ofDigitChars_nil,
        List.reverse_append, List.reverse_singleton, List.singleton_append, List.map_cons,
        Nat.ofDigits_cons, digit, Nat.add_comm]

theorem digits?_eq_some_iff : digits? cs = some n ↔ Digits cs n := by
  constructor
  · intro read
    unfold digits? at read
    split at read
    · rename_i run
      exact ⟨run.1, List.all_eq_true.mp run.2,
        (ofDigitChars_eq cs).symm.trans (Option.some.inj read)⟩
    · cases read
  · rintro ⟨nonempty, digits, rfl⟩
    rw [digits?, if_pos ⟨nonempty, List.all_eq_true.mpr digits⟩, ofDigitChars_eq]

/-- No run of digits begins with a sign. -/
theorem not_digits_cons {sign : Char} (other : sign.isDigit = false) :
    ¬ Digits (sign :: cs) n := by
  intro run
  rw [run.digits sign List.mem_cons_self] at other
  cases other

/-! ## Numerals -/

/-- A numeral without a sign or with a plus sign. -/
inductive Unsigned : List Char → Nat → Prop where
  | bare {cs : List Char} {n : Nat} (run : Digits cs n) : Unsigned cs n
  | plus {cs : List Char} {n : Nat} (run : Digits cs n) : Unsigned ('+' :: cs) n

/-- A numeral without a sign or with either of the two. -/
inductive Signed : List Char → Int → Prop where
  | unsigned {cs : List Char} {n : Nat} (numeral : Unsigned cs n) : Signed cs n
  | minus {cs : List Char} {n : Nat} (run : Digits cs n) : Signed ('-' :: cs) (-n)

theorem unsigned_plus_iff : Unsigned ('+' :: cs) n ↔ Digits cs n := by
  constructor
  · intro numeral
    cases numeral with
    | bare run => exact absurd run (not_digits_cons rfl)
    | plus run => exact run
  · exact .plus

theorem unsigned_iff (bare : ∀ rest, cs ≠ '+' :: rest) : Unsigned cs n ↔ Digits cs n := by
  constructor
  · intro numeral
    cases numeral with
    | bare run => exact run
    | plus run => exact absurd rfl (bare _)
  · exact .bare

theorem signed_minus_iff : Signed ('-' :: cs) i ↔ ∃ n : Nat, Digits cs n ∧ -(n : Int) = i := by
  constructor
  · intro numeral
    cases numeral with
    | unsigned numeral =>
        cases numeral with
        | bare run => exact absurd run (not_digits_cons rfl)
    | minus run => exact ⟨_, run, rfl⟩
  · rintro ⟨n, run, rfl⟩
    exact .minus run

theorem signed_iff (bare : ∀ rest, cs ≠ '-' :: rest) :
    Signed cs i ↔ ∃ n : Nat, Unsigned cs n ∧ (n : Int) = i := by
  constructor
  · intro numeral
    cases numeral with
    | unsigned numeral => exact ⟨_, numeral, rfl⟩
    | minus run => exact absurd rfl (bare _)
  · rintro ⟨n, numeral, rfl⟩
    exact .unsigned numeral

/-! ## Reading numerals -/

/-- **A number is read without a minus sign exactly if the numeral writes it and it is not too
great.** -/
theorem natural?_eq_some_iff :
    natural? max s = some n ↔ Unsigned s.toList n ∧ n ≤ max := by
  rw [natural?, Option.filter_eq_some_iff, digits?_eq_some_iff, decide_eq_true_iff]
  refine and_congr_left' ?_
  split
  case h_1 rest front => rw [front, unsigned_plus_iff]
  case h_2 bare => rw [unsigned_iff bare]

/-- **A number is read with either sign exactly if the numeral writes it and it lies between the
bounds.** -/
theorem integer?_eq_some_iff :
    integer? low high s = some i ↔ Signed s.toList i ∧ low ≤ i ∧ i ≤ high := by
  rw [integer?, Option.filter_eq_some_iff, decide_eq_true_iff]
  refine and_congr_left' ?_
  split
  case h_1 rest front =>
    rw [Option.map_eq_some_iff, front, signed_iff (by simp)]
    simp only [digits?_eq_some_iff, unsigned_plus_iff, Int.ofNat_eq_natCast]
  case h_2 rest front =>
    rw [Option.map_eq_some_iff, front, signed_minus_iff]
    simp only [digits?_eq_some_iff, Int.ofNat_eq_natCast]
  case h_3 bare bare' =>
    rw [Option.map_eq_some_iff, signed_iff bare']
    simp only [digits?_eq_some_iff, unsigned_iff bare, Int.ofNat_eq_natCast]

/-- The decimal form of a number writes it. -/
theorem unsigned_toString (n : Nat) : Unsigned (toString n).toList n := by
  rw [Nat.toString_eq_ofList_toDigits, String.toList_ofList]
  refine .bare ⟨Nat.toDigits_ne_nil,
    fun c => Nat.isDigit_of_mem_toDigits (by decide) (by decide), ?_⟩
  rw [← ofDigitChars_eq, Nat.ofDigitChars_toDigits (by decide) (by decide)]

end LineService.Numeral
