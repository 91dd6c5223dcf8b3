/-!
# Texts without control sequences

A text that is shown where nobody obeys control sequences is stripped of them first.
`plain` drops control characters other than white space, and the sequences that an escape
character opens: short commands, commands with parameters, which a letter ends, and strings
of arbitrary content.

White space inside a command is shown all the same.  The text behind it is shown too, up to
the next character that is dropped; from there on the command continues.
-/

namespace LineService.Text

/-- What a character belongs to. -/
inductive Context where
  /-- The text itself. -/
  | text
  /-- An escape character stands before it. -/
  | escape
  /-- A command of several characters that takes no parameters. -/
  | designation
  /-- A command with parameters. -/
  | command
  /-- The head of a device string, before its parameters. -/
  | deviceHead
  | deviceParameters
  | deviceIntermediate
  /-- A string of which nothing is shown. -/
  | string
  /-- A string that a bell ends. -/
  | titleString
  deriving DecidableEq, Repr

/-- The byte that ends a string. -/
def stringTerminator : UInt8 := 0x9C

/-- A character lies in a range of code points. -/
def between (low high : Nat) (c : Char) : Bool := low ≤ c.toNat && c.toNat ≤ high

/-- White space that is shown also inside a command. -/
def isShownBlank (c : Char) : Bool :=
  c == '\t' || c == '\n' || c == '\x0c' || c == '\r' || c == ' '

/-- What the characters behind an escape character and this one belong to. -/
def Context.afterEscape (c : Char) : Context :=
  if between 0x20 0x2F c then .designation
  else if c = '[' then .command
  else if c = ']' then .titleString
  else if c = 'P' then .deviceHead
  else if c = 'X' ∨ c = '^' ∨ c = '_' then .string
  else if between 0x30 0x7E c then .text
  else .escape

/-- What the character behind this one belongs to. -/
def Context.next (x : Context) (c : Char) : Context :=
  if c = '\x18' ∨ c = '\x1a' then .text
  else if c = '\x1b' then .escape
  else match x with
    | .text => .text
    | .escape => afterEscape c
    | .designation => if between 0x30 0x7E c then .text else .designation
    | .command => if between 0x40 0x7E c then .text else .command
    | .deviceHead =>
      if between 0x20 0x2F c then .deviceIntermediate
      else if between 0x30 0x3F c then .deviceParameters
      else if between 0x40 0x7E c then .string
      else .deviceHead
    | .deviceParameters =>
      if between 0x20 0x2F c then .deviceIntermediate
      else if between 0x3C 0x7E c then .string
      else .deviceParameters
    | .deviceIntermediate => if between 0x30 0x7E c then .string else .deviceIntermediate
    | .string => if (String.utf8EncodeChar c).contains stringTerminator then .text else .string
    | .titleString => if c = '\x07' then .text else .titleString

/-- A character of the text itself is shown, unless it is a control character of ASCII that
is no white space. -/
def isShown (c : Char) : Bool := isShownBlank c || between 0x20 0x7E c || 0x80 ≤ c.toNat

/-- In a context other than the text itself, white space alone is shown, and only in
commands. -/
def Context.shows (x : Context) (c : Char) : Bool :=
  match x with
  | .text => isShown c
  | .escape | .designation | .command => isShownBlank c && c != ' '
  | _ => false

/-- What is shown of characters.  `showing` tells that the last one was shown, and `x` is
what the next one belongs to if it is not shown. -/
def plainFrom (x : Context) (showing : Bool) : List Char → List Char
  | [] => []
  | c :: rest =>
    if showing && isShown c then
      c :: plainFrom (if 0x80 ≤ c.toNat then .text else x) true rest
    else if x.shows c then c :: plainFrom (x.next c) true rest
    else plainFrom (x.next c) false rest

/-- A text as it is shown where control sequences are not obeyed. -/
def plain (s : String) : String := String.ofList (plainFrom .text false s.toList)

end LineService.Text
