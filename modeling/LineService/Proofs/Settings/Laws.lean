import LineService.Proofs.Settings.Plain

/-!
# A library that keeps to its documentation

`Library.Documented` says what a library that collects settings is relied on for, one sentence of
its documentation a law.  Blank lines and comments of an ini file say nothing, and a line with a key
and a value says the value under the key, unless a later line says another.  A variable whose name
goes on behind the opening says its text under the rest of the name, in small letters.  Of several
sources the last one counts, and names that differ in the case of letters only are one name.

The laws are about one line, one variable and one source.  By induction they give what a whole file
of plain rows says (`Documented.says_rows`) and what a whole environment does
(`Documented.says_environment`).
-/

set_option autoImplicit false

namespace LineService.Settings

/-- What is found where `key` says `text` besides: any text that is found anyway counts before
it. -/
def besides (key text : String) (found : String → Option String) : String → Option String :=
  fun k => (found k).or (if k = key then some text else none)

/-- What comes of laying texts under keys over texts under names.  Nothing comes of it if two keys
are one name and have different texts. -/
structure Overlays (upper base result : String → Option String) : Prop where
  /-- A new text stands under its key in small letters. -/
  new : ∀ key text, upper key = some text → result (Text.lower key) = some text
  /-- A name for which there is no new text keeps what it had. -/
  old : ∀ name, (∀ key, Text.lower key = name → upper key = none) → result name = base name

namespace Library

variable (library : Library)

/-- A source says these texts under these keys, and nothing else. -/
def Says (o : library.Origin) (found : String → Option String) : Prop :=
  ∃ entries, library.collect o = .ok entries ∧
    ∀ key value, (key, value) ∈ entries ↔ (found key).map library.text = some value

/-- Sources give these texts under these names together, and nothing else. -/
def Gives (os : List library.Origin) (found : String → Option String) : Prop :=
  ∃ config table, library.build os = .ok config ∧ library.texts config = .ok table ∧
    ∀ name text, (name, text) ∈ table ↔ found name = some text

/-- The library does what its documentation says of plain settings. -/
structure Documented : Prop where
  /-- An empty file says nothing. -/
  empty_file : ∀ path, library.Says (library.ini path (fileOf [])) fun _ => none
  /-- A blank line says nothing. -/
  blank_line : ∀ path rows found text blank, library.Says (library.ini path (fileOf rows)) found →
    library.Says (library.ini path (fileOf (.blank text blank :: rows))) found
  /-- A comment says nothing. -/
  comment_line : ∀ path rows found sign signs text line,
    library.Says (library.ini path (fileOf rows)) found →
    library.Says (library.ini path (fileOf (.comment sign signs text line :: rows))) found
  /-- A key says its value without the blanks around it, if no later line with that key does. -/
  entry_line : ∀ path rows found key spaces value,
    library.Says (library.ini path (fileOf rows)) found →
    library.Says (library.ini path (fileOf (.entry key spaces value :: rows)))
      (besides key.text (Text.strip value.text) found)
  /-- An empty environment says nothing. -/
  no_variable : ∀ opening : PlainName,
    library.Says (library.environment opening.text []) fun _ => none
  /-- A variable whose name goes on behind the opening says its text as it is, under the rest of its
  name in small letters. -/
  named_variable : ∀ (opening : PlainName) vars found (name : PlainName) value,
    library.Says (library.environment opening.text vars) found →
    found (Text.lower name.text) = none →
    library.Says
      (library.environment opening.text ((opening.text ++ "_" ++ name.text, value) :: vars))
      (besides (Text.lower name.text) value found)
  /-- A variable whose name begins in another way says nothing. -/
  foreign_variable : ∀ (opening : PlainName) vars found v,
    library.Says (library.environment opening.text vars) found →
    ¬ (Text.lower (opening.text ++ "_")).toList <+: (Text.lower v.1).toList →
    library.Says (library.environment opening.text (v :: vars)) found
  /-- No source gives nothing. -/
  no_source : library.Gives [] fun _ => none
  /-- What a source says under plain keys is laid over what the sources before it give. -/
  later_source : ∀ os o base upper result, library.Gives os base → library.Says o upper →
    (∀ key text, upper key = some text → ∃ name : PlainName, key = name.text) →
    Overlays upper base result → library.Gives (os ++ [o]) result

end Library

/-! ## The texts that are found last -/

section LastUnder

variable {e : String × String} {es : List (String × String)}

theorem lastUnder_cons_eq (e : String × String) (es : List (String × String)) :
    (lastUnder · (e :: es)) = besides e.1 e.2 (lastUnder · es) := by
  funext k
  exact lastUnder_cons k e es

/-- In small letters a key is found that no other key becomes the same as. -/
theorem lastUnder_inSmall {key : String} (apart : ∀ e ∈ es, Text.lower e.1 = Text.lower key →
    e.1 = key) : lastUnder (Text.lower key) (inSmall es) = lastUnder key es := by
  induction es with
  | nil => rfl
  | cons e es ih =>
      rw [List.forall_mem_cons] at apart
      have same : Text.lower key = Text.lower e.1 ↔ key = e.1 :=
        ⟨fun small => (apart.1 small.symm).symm, congrArg Text.lower⟩
      rw [inSmall, List.map_cons, lastUnder_cons, ← inSmall, ih apart.2, lastUnder_cons,
        Prod.map_fst, Prod.map_snd, id]
      simp only [same]

/-- Texts under keys that small letters tell apart come to stand under these keys in small
letters. -/
theorem overlays_lastUnder (apart : ToldApart Text.lower es) (base : String → Option String) :
    Overlays (lastUnder · es) base fun name => (lastUnder name (inSmall es)).or (base name) where
  new key text found := by
    have others : ∀ e ∈ es, Text.lower e.1 = Text.lower key → e.1 = key :=
      fun e member => apart e member (key, text) (mem_of_lastUnder found)
    have here : lastUnder (Text.lower key) (inSmall es) = some text :=
      (lastUnder_inSmall others).trans found
    rw [here]
    rfl
  old name unsaid := by
    have missing : lastUnder name (inSmall es) = none := by
      rw [lastUnder_eq_none_iff]
      intro d member named
      obtain ⟨e, there, rfl⟩ := List.mem_map.mp member
      exact lastUnder_eq_none_iff.mp (unsaid e.1 named) e there rfl
    rw [missing, Option.none_or]

theorem inSmall_of_small (small : ∀ e ∈ es, Text.lower e.1 = e.1) : inSmall es = es := by
  have same : ∀ e ∈ es, Prod.map Text.lower id e = id e :=
    fun e member => Prod.ext (small e member) rfl
  rw [inSmall, List.map_congr_left same, List.map_id]

/-- Texts under keys in small letters come to stand under these keys. -/
theorem overlays_of_small (small : ∀ e ∈ es, Text.lower e.1 = e.1)
    (base : String → Option String) :
    Overlays (lastUnder · es) base fun name => (lastUnder name es).or (base name) := by
  have apart : ToldApart Text.lower es := by
    intro d memberD e memberE same
    rwa [small d memberD, small e memberE] at same
  have laid := overlays_lastUnder apart base
  rw [inSmall_of_small small] at laid
  exact laid

end LastUnder

/-! ## Whole sources -/

namespace Library.Documented

variable {library : Library} (documented : library.Documented)
include documented

/-- **A file of plain rows says, under each of its keys, the value of the last row with that
key.** -/
theorem says_rows (path : String) (rows : List Row) :
    library.Says (library.ini path (fileOf rows)) (lastUnder · (given rows)) := by
  induction rows with
  | nil => exact documented.empty_file path
  | cons r rows ih =>
      cases r with
      | blank text blank => exact documented.blank_line path rows _ text blank ih
      | comment sign signs text line =>
          exact documented.comment_line path rows _ sign signs text line ih
      | entry key spaces value =>
          have here : given (.entry key spaces value :: rows) =
              (key.text, Text.strip value.text) :: given rows := rfl
          rw [here, lastUnder_cons_eq]
          exact documented.entry_line path rows _ key spaces value ih

/-- **An environment says what its variables set**, if they set different names. -/
theorem says_environment (opening : PlainName) {environment : List (String × String)}
    (plain : ∀ v ∈ environment, PlainVariable opening.text v)
    (once : ((environment.filterMap (setting? opening.text)).map Prod.fst).Nodup) :
    library.Says (library.environment opening.text environment)
      (lastUnder · (environment.filterMap (setting? opening.text))) := by
  induction environment with
  | nil => exact documented.no_variable opening
  | cons v environment ih =>
      rw [List.forall_mem_cons] at plain
      rcases plain.1 with ⟨name, named⟩ | foreign
      · obtain ⟨_, value⟩ := v
        dsimp only at named
        rw [named, List.filterMap_cons_some (setting?_of_name opening name value)] at once ⊢
        rw [List.map_cons, List.nodup_cons] at once
        have new : lastUnder (Text.lower name.text)
            (environment.filterMap (setting? opening.text)) = none := by
          rw [lastUnder_eq_none_iff]
          intro e member same
          exact once.1 (List.mem_map.mpr ⟨e, member, same⟩)
        rw [lastUnder_cons_eq]
        exact documented.named_variable opening environment _ name value (ih plain.2 once.2) new
      · rw [List.filterMap_cons_none (setting?_eq_none_iff.mpr foreign)] at once ⊢
        exact documented.foreign_variable opening environment _ v (ih plain.2 once) foreign

end Library.Documented

end LineService.Settings
