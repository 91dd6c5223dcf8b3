import LineService.Text.Case
import LineService.Text.VeilTable

/-!
# A character between single quotes

In messages a single character is shown between single quotes.  The quote itself, the
backslash and the common control characters are shown by a letter after a backslash,
and veiled characters, which a reader would not see as they are, by their code point.
-/

namespace LineService.Text

/-- A reader would not see the character as it is. -/
def isVeiled (c : Char) : Bool := inRanges veiledRanges c.toNat

/-- What stands between the quotes. -/
def quotedBody (c : Char) : String :=
  if c = '\'' then "\\'"
  else if c = '\\' then "\\\\"
  else if c = '\x00' then "\\0"
  else if c = '\t' then "\\t"
  else if c = '\r' then "\\r"
  else if c = '\n' then "\\n"
  else if isVeiled c then
    "\\u\x7b" ++ String.ofList (Nat.toDigits 16 c.toNat) ++ "\x7d"
  else String.ofList [c]

/-- A character between single quotes. -/
def quoted (c : Char) : String := "'" ++ quotedBody c ++ "'"

end LineService.Text
