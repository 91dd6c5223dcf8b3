/-!
# Whole numbers in decimal notation

Numbers are read from runs of ASCII digits, of any length and with any number of
leading zeros, after an optional sign.  Reading is exact: the run is a number of
unbounded size first, and a bound is applied to that number afterwards, so that
a numeral fails for its value and never for its length.
-/

namespace LineService.Numeral

/-- The value of a run of ASCII digits; there must be at least one. -/
def digits? (cs : List Char) : Option Nat :=
  if cs ≠ [] ∧ cs.all Char.isDigit then some (Nat.ofDigitChars 10 cs 0) else none

/-- A number of at most `max`, with an optional plus sign. -/
def natural? (max : Nat) (s : String) : Option Nat :=
  let cs := match s.toList with
    | '+' :: cs => cs
    | cs => cs
  (digits? cs).filter (· ≤ max)

/-- A number between `min` and `max`, with an optional sign. -/
def integer? (min max : Int) (s : String) : Option Int :=
  let n := match s.toList with
    | '+' :: cs => (digits? cs).map Int.ofNat
    | '-' :: cs => (digits? cs).map fun n => -Int.ofNat n
    | cs => (digits? cs).map Int.ofNat
  n.filter fun n => min ≤ n ∧ n ≤ max

/-- The value of a run of hexadecimal digits of either case; there must be at
least one. -/
def hexDigit? (c : Char) : Option Nat :=
  if c.isDigit then some (c.toNat - '0'.toNat)
  else if 'a' ≤ c ∧ c ≤ 'f' then some (c.toNat - 'a'.toNat + 10)
  else if 'A' ≤ c ∧ c ≤ 'F' then some (c.toNat - 'A'.toNat + 10)
  else none

/-- The number that hexadecimal digits write, with an optional plus sign. -/
def hex? (cs : List Char) : Option Nat :=
  let digits := match cs with
    | '+' :: rest => rest
    | rest => rest
  if digits = [] then none
  else (digits.mapM hexDigit?).map (·.foldl (fun n d => 16 * n + d) 0)

end LineService.Numeral
