import LineService.Text.Utf8

/-!
# Programs

A program is started with arguments, may read its input, writes to its output and to those
who watch it, and ends with a status.  `Transcript` is what is left of it then.
-/

namespace LineService.Program

/-- What a program that has ended leaves behind. -/
structure Transcript where
  output : String
  errors : String
  status : UInt32
  deriving DecidableEq, Repr

/-- What printing texts one after the other writes: a line feed follows each. -/
def printed (texts : List String) : String := String.join (texts.map (· ++ "\n"))

/-- The line feed in a program's input. -/
def lineFeed : UInt8 := 10

/-- A text without the carriage return at its end, if it has one. -/
def dropReturn (s : String) : String :=
  match s.toList.reverse with
  | '\r' :: rest => String.ofList rest.reverse
  | _ => s

/-- The lines of an input, up to the first that is no text.  A line ends with a line feed,
before which there may be a carriage return; the last line may lack both. -/
def inputLines (input : List UInt8) : List String :=
  match h : input with
  | [] => []
  | _ :: _ =>
    let line := input.takeWhile (· ≠ lineFeed)
    match hr : input.dropWhile (· ≠ lineFeed), Utf8.decode? line with
    | _, none => []
    | [], some text => [text]
    | _ :: rest, some text =>
      have : rest.length < input.length := by
        have hle : (input.dropWhile (· ≠ lineFeed)).length ≤ input.length :=
          (List.dropWhile_sublist _).length_le
        rw [hr] at hle
        rw [List.length_cons] at hle
        omega
      dropReturn text :: inputLines rest
termination_by input.length
decreasing_by simpa [h] using this

end LineService.Program
