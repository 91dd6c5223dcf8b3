import LineService.Text.Blank

/-!
# Moments in writing

The service tells the time as `YYYY-MM-DD HH:MM:SS`.  `Moment.write` writes a moment in this
form; `Moment.read` reads one, and is more lenient: blanks before a number, and none or any
between date and time, are accepted, a number may have fewer digits than it is written with, and a
year with a sign may have more.

Reading goes from left to right and fails at the first character that does not fit.  A
number is checked against its range as soon as it has been read.  Whether the day exists in
its month is a question that is asked last, after the text has come to its end.
-/

namespace LineService

/-- A moment of the calendar, as a clock shows it. -/
structure Moment where
  year : Int
  month : Nat
  day : Nat
  hour : Nat
  minute : Nat
  second : Nat
  deriving DecidableEq, Repr

namespace Moment

/-! ## The calendar -/

/-- A year of 366 days. -/
def isLeap (year : Int) : Bool := year % 4 = 0 && (year % 100 ≠ 0 || year % 400 = 0)

/-- The number of days of a month. -/
def daysIn (year : Int) (month : Nat) : Nat :=
  if month = 2 then (if isLeap year then 29 else 28)
  else if month = 4 ∨ month = 6 ∨ month = 9 ∨ month = 11 then 30
  else 31

/-- Years the calendar knows. -/
def knowsYear (year : Int) : Bool := -262143 ≤ year && year ≤ 262142

/-! ## Writing -/

/-- A number in at least `width` digits. -/
def padded (width n : Nat) : String := String.ofList ((toString n).toList.leftpad width '0')

/-- The text of a moment of the years 0 to 9999. -/
def write (m : Moment) : String :=
  padded 4 m.year.toNat ++ "-" ++ padded 2 m.month ++ "-" ++ padded 2 m.day ++ " " ++
    padded 2 m.hour ++ ":" ++ padded 2 m.minute ++ ":" ++ padded 2 m.second

/-! ## Reading -/

/-- Why a text is no moment. -/
inductive Fault where
  /-- The text ended where something was needed. -/
  | premature
  | invalid
  | outOfRange
  /-- There was more text than needed. -/
  | trailing
  deriving DecidableEq, Repr

/-- The words that report the fault. -/
def Fault.message : Fault → String
  | .premature => "premature end of input"
  | .invalid => "input contains invalid characters"
  | .outOfRange => "input is out of range"
  | .trailing => "trailing input"

/-- The state of reading: what is left of the text. -/
abbrev Reader := StateT (List Char) (Except Fault)

/-- A run of digits, at most `width` of them if there is a width.  A number of more than 63
bits is out of range. -/
def readDigits (width : Option Nat) : Reader Int := fun cs =>
  let run := match width with
    | some w => (cs.take w).takeWhile Char.isDigit
    | none => cs.takeWhile Char.isDigit
  match cs, run with
  | [], _ => .error .premature
  | _, [] => .error .invalid
  | cs, run =>
    let n := Nat.ofDigitChars 10 run 0
    if n < Nat.pow 2 63 then .ok (n, cs.drop run.length) else .error .outOfRange

/-- Passes over blanks. -/
def skipBlanks : Reader Unit := fun cs => .ok ((), cs.dropWhile Text.isBlank)

/-- Passes over one character, which has to be `c`. -/
def expect (c : Char) : Reader Unit
  | [] => .error .premature
  | d :: cs => if d = c then .ok ((), cs) else .error .invalid

/-- Fails unless a condition holds. -/
def require (condition : Bool) : Reader Unit :=
  if condition then pure () else throw .outOfRange

/-- A year: four digits at most, or any number after a sign. -/
def readYear : Reader Int := do
  skipBlanks
  let year ← match (← get) with
    | '-' :: cs => do
      set cs
      return -(← readDigits none)
    | '+' :: cs => do
      set cs
      readDigits none
    | _ => readDigits (some 4)
  require (Int32.minValue.toInt ≤ year && year ≤ Int32.maxValue.toInt)
  return year

/-- A number of at most two digits between two bounds. -/
def readPart (least greatest : Nat) : Reader Nat := do
  skipBlanks
  let n ← readDigits (some 2)
  require (least ≤ n.toNat && n.toNat ≤ greatest)
  return n.toNat

/-- All parts of a moment, one after the other. -/
def readParts : Reader Moment := do
  let year ← readYear
  expect '-'
  let month ← readPart 1 12
  expect '-'
  let day ← readPart 1 31
  skipBlanks
  let hour ← readPart 0 23
  expect ':'
  let minute ← readPart 0 59
  expect ':'
  let second ← readPart 0 60
  return ⟨year, month, day, hour, minute, second⟩

/-- Reads a moment, and nothing but a moment. -/
def read (s : String) : Except Fault Moment :=
  match readParts s.toList with
  | .error f => .error f
  | .ok (_, _ :: _) => .error .trailing
  | .ok (m, []) =>
    if knowsYear m.year && m.day ≤ daysIn m.year m.month then .ok m else .error .outOfRange

end Moment

end LineService
