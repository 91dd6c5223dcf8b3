import LineService.Proofs.Settings.Names
import LineService.Settings.Load
import LineService.Text.Utf8
import Mathlib.Data.List.TakeWhile

/-!
# Plain settings

A plain settings file is made of rows: blank lines, comments, and keys with values that need no
quotes and no escapes (`Row`).  A variable of the environment is plain if it holds the setting of a
plain name or none at all (`PlainVariable`).

What such a file and such an environment say is said here without any reader of files: a row gives
its key and its value without the blanks around it (`Row.gives?`), a variable the rest of its name
in small letters and its value as it is (`setting?`), and of several texts under a name the last one
counts (`lastUnder`).  `Gathers` puts the two together, the environment before the file.
-/

set_option autoImplicit false

namespace LineService.Settings

/-! ## The last text under a name -/

section LastUnder

variable {ν : Type} {k : String} {v : ν} {es : List (String × ν)}

/-- The last value that stands under a key. -/
def lastUnder (k : String) (es : List (String × ν)) : Option ν := es.reverse.lookup k

/-- Keys that `f` makes equal are equal. -/
def ToldApart (f : String → String) (l : List (String × ν)) : Prop :=
  ∀ d ∈ l, ∀ e ∈ l, f d.1 = f e.1 → d.1 = e.1

theorem lookup_cons (j : String) (e : String × ν) (l : List (String × ν)) :
    (e :: l).lookup j = if j = e.1 then some e.2 else l.lookup j := by
  rw [List.lookup_cons]
  by_cases same : j = e.1
  · rw [if_pos same, beq_iff_eq.mpr same]
  · rw [if_neg same, beq_false_of_ne same]

theorem lastUnder_cons (j : String) (e : String × ν) (es : List (String × ν)) :
    lastUnder j (e :: es) = (lastUnder j es).or (if j = e.1 then some e.2 else none) := by
  rw [lastUnder, List.reverse_cons, List.lookup_append, lookup_cons, List.lookup_nil, lastUnder]

/-- What is found under a key stands there. -/
theorem mem_of_lastUnder (found : lastUnder k es = some v) : (k, v) ∈ es := by
  induction es with
  | nil => cases found
  | cons e es ih =>
      rw [lastUnder_cons, Option.or_eq_some_iff] at found
      rcases found with later | ⟨-, here⟩
      · exact List.mem_cons_of_mem _ (ih later)
      · split at here
        · rename_i same
          cases here
          rw [same]
          exact List.mem_cons_self
        · cases here

/-- Nothing is found under a key exactly if nothing stands there. -/
theorem lastUnder_eq_none_iff : lastUnder k es = none ↔ ∀ e ∈ es, e.1 ≠ k := by
  induction es with
  | nil => exact ⟨fun _ => List.forall_mem_nil _, fun _ => rfl⟩
  | cons e es ih =>
      rw [lastUnder_cons, Option.or_eq_none_iff, ih, List.forall_mem_cons, and_comm]
      by_cases same : k = e.1
      · simp [same]
      · simp [same, Ne.symm same]

/-- A list whose members are the values found under their keys is searched to the same end. -/
theorem lastUnder_eq_of_mem {found : String → Option ν}
    (members : ∀ k v, (k, v) ∈ es ↔ found k = some v) (k : String) :
    lastUnder k es = found k := by
  cases there : found k with
  | none =>
      rw [lastUnder_eq_none_iff]
      rintro ⟨_, v⟩ member rfl
      rw [members, there] at member
      cases member
  | some v =>
      cases here : lastUnder k es with
      | none => exact absurd rfl (lastUnder_eq_none_iff.mp here _ ((members k v).mpr there))
      | some w =>
          have stands := (members k w).mp (mem_of_lastUnder here)
          exact stands.symm.trans there

end LastUnder

/-! ## Files -/

/-- A value that can be written as it is: on one line, without backslashes, and with no quote
before any other character than blanks. -/
structure PlainValue where
  text : String
  line : '\n' ∉ text.toList ∧ '\r' ∉ text.toList ∧ '\\' ∉ text.toList
  bare : (text.toList.dropWhile Text.isBlank).head? ≠ some '"' ∧
    (text.toList.dropWhile Text.isBlank).head? ≠ some '\''

/-- A line of a plain settings file. -/
inductive Row where
  /-- Spaces and tabulators only, or nothing. -/
  | blank (text : String) (blank : ∀ ch ∈ text.toList, ch = ' ' ∨ ch = '\t')
  /-- A comment, whose sign is the first character of the line. -/
  | comment (sign : Char) (signs : sign = '#' ∨ sign = ';') (text : String)
      (line : '\n' ∉ text.toList)
  /-- A key and its value; spaces may stand before the sign, and any blanks in the value. -/
  | entry (key : PlainName) (spaces : Nat) (value : PlainValue)

/-- The characters of a row. -/
def Row.line : Row → List Char
  | .blank text _ => text.toList
  | .comment sign _ text _ => sign :: text.toList
  | .entry key spaces value =>
    key.text.toList ++ List.replicate spaces ' ' ++ '=' :: value.text.toList

/-- The key and the value that a row gives: the value without the blanks around it. -/
def Row.gives? : Row → Option (String × String)
  | .entry key _ value => some (key.text, Text.strip value.text)
  | .blank .. | .comment .. => none

/-- The characters of a file made of rows. -/
def charsOf (rows : List Row) : List Char := ['\n'].intercalate (rows.map Row.line)

/-- The bytes of a file made of rows.  The last row is not ended; in a file whose last line is, it
is a blank one. -/
def fileOf (rows : List Row) : List UInt8 := Utf8.encode (String.ofList (charsOf rows))

/-- What rows give, in their order. -/
def given (rows : List Row) : List (String × String) := rows.filterMap Row.gives?

/-- Rows give texts under plain names only. -/
theorem plain_of_mem_given {rows : List Row} {e : String × String} (member : e ∈ given rows) :
    ∃ key : PlainName, e.1 = key.text := by
  obtain ⟨r, -, gives⟩ := List.mem_filterMap.mp member
  cases r with
  | blank | comment => cases gives
  | entry key spaces value =>
      cases gives
      exact ⟨key, rfl⟩

/-! ## The environment -/

/-- The name that a variable sets, with its value, if `opening` and an underscore stand before
it. -/
def setting? (opening : String) (v : String × String) : Option (String × String) :=
  (Text.after? (Text.lower (opening ++ "_")) (Text.lower v.1)).map fun name => (name, v.2)

/-- A variable is called `opening`, an underscore and a plain name, or something else
altogether. -/
def PlainVariable (opening : String) (v : String × String) : Prop :=
  (∃ name : PlainName, v.1 = opening ++ "_" ++ name.text) ∨
    ¬ (Text.lower (opening ++ "_")).toList <+: (Text.lower v.1).toList

theorem setting?_of_name (opening name : PlainName) (value : String) :
    setting? opening.text (opening.text ++ "_" ++ name.text, value) =
      some (Text.lower name.text, value) := by
  have ascii : ∀ ch ∈ (opening.text ++ "_").toList, ch.toNat < 0x80 := by
    rw [String.toList_append, List.forall_mem_append]
    exact ⟨opening.ascii, List.forall_mem_singleton.mpr (by decide)⟩
  rw [setting?, Text.lower_append_of_ascii ascii name.ascii, Text.after?_append]
  rfl

theorem setting?_eq_none_iff {opening : String} {v : String × String} : setting? opening v = none ↔
    ¬ (Text.lower (opening ++ "_")).toList <+: (Text.lower v.1).toList := by
  rw [setting?, Option.map_eq_none_iff, Text.after?, ite_eq_right_iff, ← List.isPrefixOf_iff_prefix]
  simp

/-- A plain variable sets nothing, or a plain name in small letters. -/
theorem PlainVariable.small {opening : PlainName} {v e : String × String}
    (plain : PlainVariable opening.text v) (sets : setting? opening.text v = some e) :
    ∃ name : PlainName, e.1 = name.text ∧ Text.lower e.1 = e.1 := by
  rcases plain with ⟨name, named⟩ | foreign
  · have here := setting?_of_name opening name v.2
    rw [← named] at here
    cases here.symm.trans sets
    exact ⟨name.small, rfl, name.lower_lower⟩
  · cases (setting?_eq_none_iff.mpr foreign).symm.trans sets

/-- The variables of the environment that hold a server's settings begin with a plain name. -/
def serverOpening : PlainName := ⟨variableOpening, by decide, List.all_eq_true.mp rfl⟩

/-- What the environment sets under a name in small letters: the text of the variable that is called
`LINE_SERVER_` and the name, whatever its letters are. -/
def setBy (environment : List (String × String)) (name : String) : Option String :=
  lastUnder ("line_server_" ++ name) (inSmall environment)

theorem lastUnder_setting? (environment : List (String × String)) (name : String) :
    lastUnder name (environment.filterMap (setting? variableOpening)) = setBy environment name := by
  have small : Text.lower (variableOpening ++ "_") = "line_server_" := by decide
  induction environment with
  | nil => rfl
  | cons v environment ih =>
      rw [setBy, inSmall, List.map_cons, lastUnder_cons, ← inSmall, ← setBy, ← ih,
        List.filterMap_cons, Prod.map_fst]
      cases sets : setting? variableOpening v with
      | none =>
          have other : "line_server_" ++ name ≠ Text.lower v.1 := by
            intro same
            refine setting?_eq_none_iff.mp sets ?_
            rw [← same, small, String.toList_append]
            exact List.prefix_append _ _
          rw [if_neg other, Option.or_none]
      | some e =>
          obtain ⟨rest, after, rfl⟩ := Option.map_eq_some_iff.mp sets
          have named : Text.lower v.1 = "line_server_" ++ rest := by
            rw [← String.toList_inj, Text.toList_of_after? after, small, String.toList_append]
          have same : "line_server_" ++ name = "line_server_" ++ rest ↔ name = rest := by
            rw [← String.toList_inj, String.toList_append, String.toList_append,
              List.append_cancel_left_eq, String.toList_inj]
          rw [lastUnder_cons, named]
          simp only [same]
          rfl

/-! ## Both together -/

/-- What rows say under a name in small letters: the text of the last row with that key, whatever
its letters are, without the blanks around it. -/
def writtenIn (rows : List Row) (name : String) : Option String :=
  lastUnder name (inSmall (given rows))

/-- What is set under a name in small letters, the environment counting before the rows. -/
def gathered (rows : List Row) (environment : List (String × String)) (name : String) :
    Option String :=
  (setBy environment name).or (writtenIn rows name)

/-- A table in which the environment counts before the rows, and which has nothing else. -/
def Gathers (rows : List Row) (environment : List (String × String)) (t : Table) : Prop :=
  ∀ name, t.lookup name = gathered rows environment name

end LineService.Settings
