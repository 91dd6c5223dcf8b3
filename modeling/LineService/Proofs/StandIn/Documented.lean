import LineService.Proofs.Settings.Laws
import LineService.Proofs.StandIn.Rows
import LineService.Proofs.Text.Decoding
import LineService.StandIn.Collector
import Mathlib.Data.Prod.Basic

/-!
# The library that stands in

The library that stands in keeps to the documentation (`documented`), so what is proved of loading
settings with such a library is proved of something.

A source whose keys have texts is a list of keys with their texts (`says_iff`), and layers in which
every name stands for a text are a table (`gives_iff`, by `ofTexts`).  Laying plain keys over such
layers comes to putting texts under names, one after the other (`foldlM_layKey`), and of several
texts put under a name the last one stands there (`mem_putAll_iff`).
-/

set_option autoImplicit false

namespace LineService.StandIn

open Settings

/-! ## Putting values under keys -/

section Put

variable {ν ν' : Type} {k j : String} {v w : ν} {es l : List (String × ν)}

/-- Puts values under keys, one after the other. -/
def putAll (es l : List (String × ν)) : List (String × ν) :=
  es.foldl (fun l e => put e.1 e.2 l) l

theorem mem_replace_iff : (j, w) ∈ (l.map fun e => if e.1 == k then (k, v) else e) ↔
    ((j, w) = (k, v) ∧ ∃ e ∈ l, e.1 = k) ∨ (j ≠ k ∧ (j, w) ∈ l) := by
  rw [List.mem_map]
  constructor
  · rintro ⟨e, member, became⟩
    by_cases here : e.1 = k
    · rw [if_pos (beq_iff_eq.mpr here)] at became
      exact .inl ⟨became.symm, e, member, here⟩
    · rw [if_neg (mt beq_iff_eq.mp here)] at became
      cases became
      exact .inr ⟨here, member⟩
  · rintro (⟨same, e, member, here⟩ | ⟨other, member⟩)
    · exact ⟨e, member, by rw [if_pos (beq_iff_eq.mpr here), same]⟩
    · exact ⟨_, member, if_neg (mt beq_iff_eq.mp other)⟩

/-- A value that is put under a key is the only one there, and others stay. -/
theorem mem_put_iff : (j, w) ∈ put k v l ↔ (j, w) = (k, v) ∨ (j ≠ k ∧ (j, w) ∈ l) := by
  rw [put]
  split
  · rename_i there
    rw [mem_replace_iff]
    obtain ⟨e, member, here⟩ := List.any_eq_true.mp there
    rw [and_iff_left ⟨e, member, beq_iff_eq.mp here⟩]
  · rename_i missing
    have others : (j, w) ∈ l → j ≠ k := by
      rintro member rfl
      exact missing (List.any_eq_true.mpr ⟨_, member, beq_self_eq_true j⟩)
    rw [List.mem_append, List.mem_singleton, or_comm, and_iff_right_of_imp others]

/-- **Of several values put under a key the last one stands there**, and where none is put
everything stays. -/
theorem mem_putAll_iff : (k, v) ∈ putAll es l ↔
    lastUnder k es = some v ∨ (lastUnder k es = none ∧ (k, v) ∈ l) := by
  induction es generalizing l with
  | nil =>
      have nothing : lastUnder k ([] : List (String × ν)) = none := rfl
      rw [nothing]
      simp [putAll]
  | cons e es ih =>
      rw [putAll, List.foldl_cons, ← putAll, ih, mem_put_iff, lastUnder_cons]
      cases lastUnder k es with
      | some w => simp
      | none =>
          by_cases here : k = e.1
          · simp [here, Prod.ext_iff, eq_comm]
          · simp [here, Prod.ext_iff]

theorem put_map (g : ν → ν') (k : String) (v : ν) (l : List (String × ν)) :
    put k (g v) (l.map (Prod.map id g)) = (put k v l).map (Prod.map id g) := by
  have there : (l.map (Prod.map id g)).any (·.1 == k) = l.any (·.1 == k) := by
    rw [List.any_map]
    rfl
  rw [put, put, there]
  split
  · rw [List.map_map, List.map_map]
    apply List.map_congr_left
    intro e _
    simp only [Function.comp_apply, Prod.map_fst, id]
    split <;> rfl
  · rw [List.map_append]
    rfl

theorem putAll_map (g : ν → ν') (es l : List (String × ν)) :
    putAll (es.map (Prod.map id g)) (l.map (Prod.map id g)) =
      (putAll es l).map (Prod.map id g) := by
  induction es generalizing l with
  | nil => rfl
  | cons e es ih =>
      have first : put e.1 (g e.2) (l.map (Prod.map id g)) = (put e.1 e.2 l).map (Prod.map id g) :=
        put_map g e.1 e.2 l
      rw [putAll, List.map_cons, List.foldl_cons, Prod.map_fst, Prod.map_snd, id, first, ← putAll,
        ih]
      rfl

end Put

/-! ## Sources of texts -/

section Sources

variable {o : Origin} {found found' : String → Option String} {rows : List Row}

/-- What a source says that has only texts. -/
def ofSaid (es : Table) : RawKeys := es.map (Prod.map id Said.text)

theorem mem_ofSaid_iff {es : Table} {key text : String} :
    (key, Said.text text) ∈ ofSaid es ↔ (key, text) ∈ es := by
  have apart : Function.Injective (Prod.map id Said.text : String × String → String × Said) :=
    Function.injective_id.prodMap fun _ _ same => Said.text.inj same
  exact List.mem_map_of_injective (a := (key, text)) apart

theorem ofSaid_injective : Function.Injective ofSaid :=
  List.map_injective_iff.mpr (Function.injective_id.prodMap fun _ _ same => Said.text.inj same)

theorem exists_ofSaid {entries : RawKeys} (texts : ∀ e ∈ entries, ∃ text, e.2 = .text text) :
    ∃ es, entries = ofSaid es := by
  induction entries with
  | nil => exact ⟨[], rfl⟩
  | cons e entries ih =>
      rw [List.forall_mem_cons] at texts
      obtain ⟨text, here⟩ := texts.1
      obtain ⟨es, rfl⟩ := ih texts.2
      exact ⟨(e.1, text) :: es, by rw [ofSaid, ofSaid, List.map_cons, Prod.map, ← here, id]⟩

/-- A source says texts if it is a list of keys with their texts. -/
theorem says_iff : library.Says o found ↔
    ∃ es, collect o = .ok (ofSaid es) ∧ ∀ key text, (key, text) ∈ es ↔ found key = some text := by
  constructor
  · rintro ⟨entries, collected, members⟩
    have texts : ∀ e ∈ entries, ∃ text, e.2 = .text text := by
      intro e member
      obtain ⟨text, -, here⟩ := Option.map_eq_some_iff.mp ((members e.1 e.2).mp member)
      exact ⟨text, here.symm⟩
    obtain ⟨es, rfl⟩ := exists_ofSaid texts
    refine ⟨es, collected, fun key text => ?_⟩
    refine mem_ofSaid_iff.symm.trans ((members key (.text text)).trans ?_)
    simp [library]
  · rintro ⟨es, collected, members⟩
    refine ⟨ofSaid es, collected, fun key value => ?_⟩
    rw [Option.map_eq_some_iff]
    constructor
    · intro member
      obtain ⟨e, there, here⟩ := List.mem_map.mp member
      cases here
      exact ⟨e.2, (members _ _).mp there, rfl⟩
    · rintro ⟨text, here, rfl⟩
      exact mem_ofSaid_iff.mpr ((members key text).mpr here)

/-- A source says one thing only. -/
theorem says_unique (said : library.Says o found) (said' : library.Says o found') :
    found = found' := by
  obtain ⟨es, collected, members⟩ := says_iff.mp said
  obtain ⟨es', collected', members'⟩ := says_iff.mp said'
  cases ofSaid_injective (Except.ok.inj (collected.symm.trans collected'))
  funext key
  apply Option.ext
  intro text
  rw [← members, members']

/-! ### Files -/

theorem rawKeys_entries (entries : List (String × String)) :
    Document.rawKeys ⟨entries, []⟩ = ofSaid (putAll entries []) := by
  rw [ofSaid, ← putAll_map, putAll, List.foldl_map]
  rfl

/-- **A file of plain rows says what its rows give.** -/
theorem says_file (path : String) (rows : List Row) :
    library.Says (.ini path (fileOf rows)) (lastUnder · (given rows)) := by
  rw [says_iff]
  refine ⟨putAll (given rows) [], ?_, fun key text => ?_⟩
  · rw [collect, readFile, fileOf, Utf8.decode?_encode]
    dsimp only
    rw [Document.read_rows, ← rawKeys_entries]
  · rw [mem_putAll_iff]
    simp

/-- A row that gives nothing changes nothing in what a file says. -/
theorem says_silent {r : Row} (silent : r.gives? = none) (path : String)
    (said : library.Says (.ini path (fileOf rows)) found) :
    library.Says (.ini path (fileOf (r :: rows))) found := by
  have same : given (r :: rows) = given rows := List.filterMap_cons_none silent
  have here := says_file path (r :: rows)
  rw [same] at here
  rwa [says_unique said (says_file path rows)]

/-! ### The environment -/

theorem readVariable_eq (opening : String) (v : String × String) :
    readVariable opening v = (setting? opening v).map (Prod.map id Said.text) := by
  rw [readVariable, setting?, Option.map_map]
  rfl

theorem collect_environment (opening : String) (vars : List (String × String)) :
    collect (.environment opening vars) =
      .ok (ofSaid (vars.filterMap (setting? opening))) := by
  rw [collect, ofSaid, List.map_filterMap]
  congr 2
  funext v
  exact readVariable_eq opening v

/-- What an environment says is known from the settings of its variables. -/
theorem says_environment_iff {opening : String} {vars : List (String × String)} :
    library.Says (.environment opening vars) found ↔
      ∀ key text, (key, text) ∈ vars.filterMap (setting? opening) ↔
        found key = some text := by
  rw [says_iff]
  constructor
  · rintro ⟨es, collected, members⟩
    rw [collect_environment] at collected
    rwa [ofSaid_injective (Except.ok.inj collected)]
  · intro members
    exact ⟨_, collect_environment opening vars, members⟩

end Sources

/-! ## Layers of texts -/

section Layers

variable {l : Layers} {t : Table} {os : List Origin} {found : String → Option String}

/-- Layers in which every name stands for a text. -/
def ofTexts (t : Table) : Layers := t.map (Prod.map id Node.text)

theorem texts_ofTexts (t : Table) : texts (ofTexts t) = .ok t := by
  induction t with
  | nil => rfl
  | cons e t ih =>
      rw [texts, ofTexts] at ih
      rw [texts, ofTexts, List.map_cons, List.mapM_cons, ih]
      rfl

/-- Layers in which every name stands for a text are made from those texts. -/
theorem eq_ofTexts (read : texts l = .ok t) : l = ofTexts t := by
  induction l generalizing t with
  | nil =>
      cases read
      rfl
  | cons e l ih =>
      obtain ⟨name, node⟩ := e
      rw [texts, List.mapM_cons] at read
      cases first : readText (name, node) with
      | error s =>
          rw [first] at read
          cases read
      | ok here =>
          cases rest : l.mapM readText with
          | error s =>
              rw [first, rest] at read
              cases read
          | ok others =>
              rw [first, rest] at read
              cases read
              rw [ih rest]
              cases node with
              | text value =>
                  cases first
                  rfl
              | nothing | table | sequence => cases first

/-- Sources give texts if they give layers of these texts. -/
theorem gives_iff : library.Gives os found ↔
    ∃ t, build os = .ok (ofTexts t) ∧ ∀ name text, (name, text) ∈ t ↔ found name = some text := by
  constructor
  · rintro ⟨l, t, built, read, members⟩
    exact ⟨t, by rw [← eq_ofTexts read]; exact built, members⟩
  · rintro ⟨t, built, members⟩
    exact ⟨ofTexts t, t, built, texts_ofTexts t, members⟩

/-- A plain name is a path without steps. -/
theorem ofKey_plain (key : PlainName) : Path.ofKey key.text = ⟨Text.lower key.text, []⟩ := by
  obtain ⟨first, more, characters, -⟩ := key.exists_first
  have all : key.text.toList.takeWhile Path.isNameChar = key.text.toList := by
    refine List.takeWhile_eq_self_iff.mpr fun ch member => ?_
    have word := key.plain ch member
    rw [isWordChar] at word
    rw [Path.isNameChar, word, Bool.true_or, Bool.true_or]
  have name : Path.name? key.text.toList = some (key.text.toList, []) := by
    rw [Path.name?, all, List.drop_length, if_neg]
    rw [characters]
    exact List.cons_ne_nil _ _
  rw [Path.ofKey, Path.read?, name]
  simp [Path.steps?, Path.known]

/-- A text is laid under its name in small letters. -/
theorem layKey_text (key : PlainName) (text : String) (t : Table) :
    layKey (ofTexts t) (key.text, .text text) =
      .ok (ofTexts (put (Text.lower key.text) text t)) := by
  rw [layKey, Layers.lay, ofKey_plain, ofTexts, ofTexts, ← put_map]
  rfl

/-- **Laying texts under plain keys puts them under these keys in small letters.** -/
theorem foldlM_layKey {es : Table} (plain : ∀ e ∈ es, ∃ key : PlainName, e.1 = key.text)
    (t : Table) :
    (ofSaid es).foldlM layKey (ofTexts t) = .ok (ofTexts (putAll (inSmall es) t)) := by
  induction es generalizing t with
  | nil => rfl
  | cons e es ih =>
      rw [List.forall_mem_cons] at plain
      obtain ⟨key, named⟩ := plain.1
      obtain ⟨_, text⟩ := e
      cases named
      have first := layKey_text key text t
      rw [ofSaid, List.map_cons, List.foldlM_cons]
      change (layKey (ofTexts t) (key.text, .text text) >>= _) = _
      rw [first]
      exact ih plain.2 _

/-- A source of texts under plain keys is laid over the sources before it. -/
theorem build_append {o : Origin} {es : Table} (built : build os = .ok (ofTexts t))
    (collected : collect o = .ok (ofSaid es))
    (plain : ∀ e ∈ es, ∃ key : PlainName, e.1 = key.text) :
    build (os ++ [o]) = .ok (ofTexts (putAll (inSmall es) t)) := by
  have last : layOrigin (ofTexts t) o = .ok (ofTexts (putAll (inSmall es) t)) := by
    rw [layOrigin, collected]
    exact foldlM_layKey plain t
  rw [build] at built ⊢
  rw [List.foldlM_append, built]
  change (layOrigin (ofTexts t) o >>= pure) = _
  rw [last]
  rfl

end Layers

/-! ## The documentation -/

/-- Texts laid over a table stand in it as they are overlaid. -/
theorem mem_putAll_inSmall_iff {es t : Table} {upper base result : String → Option String}
    (news : ∀ key text, (key, text) ∈ es ↔ upper key = some text)
    (olds : ∀ name text, (name, text) ∈ t ↔ base name = some text)
    (laid : Overlays upper base result) (name text : String) :
    (name, text) ∈ putAll (inSmall es) t ↔ result name = some text := by
  rw [mem_putAll_iff]
  cases last : lastUnder name (inSmall es) with
  | some new =>
      obtain ⟨e, member, here⟩ := List.mem_map.mp (mem_of_lastUnder last)
      cases here
      rw [laid.new e.1 e.2 ((news e.1 e.2).mp member)]
      simp
  | none =>
      have unsaid : ∀ key, Text.lower key = name → upper key = none := by
        rintro key rfl
        rw [Option.eq_none_iff_forall_ne_some]
        intro new said
        have member := List.mem_map_of_mem (f := Prod.map Text.lower id) ((news key new).mpr said)
        exact lastUnder_eq_none_iff.mp last _ member rfl
      rw [laid.old name unsaid, olds]
      simp

/-- **The library that stands in does what the documentation says of plain settings.** -/
theorem documented : library.Documented where
  empty_file path := says_file path []
  blank_line path rows found text blank said := says_silent rfl path said
  comment_line path rows found sign signs text line said := says_silent rfl path said
  entry_line path rows found key spaces value said := by
    have here := says_file path (.entry key spaces value :: rows)
    have gives : given (.entry key spaces value :: rows) =
        (key.text, Text.strip value.text) :: given rows := rfl
    rw [gives, lastUnder_cons_eq] at here
    rwa [says_unique said (says_file path rows)]
  no_variable opening := says_environment_iff.mpr (by simp)
  named_variable opening vars found name value said new := by
    refine says_environment_iff.mpr fun key text => ?_
    rw [List.filterMap_cons_some (setting?_of_name opening name value), List.mem_cons,
      says_environment_iff.mp said, besides]
    by_cases here : key = Text.lower name.text
    · rw [here, new]
      simp [eq_comm]
    · simp [here]
  foreign_variable opening vars found v said foreign := by
    refine says_environment_iff.mpr ?_
    rw [List.filterMap_cons_none (setting?_eq_none_iff.mpr foreign)]
    exact says_environment_iff.mp said
  no_source := gives_iff.mpr ⟨[], rfl, by simp⟩
  later_source os o base upper result gives said plain laid := by
    obtain ⟨t, built, olds⟩ := gives_iff.mp gives
    obtain ⟨es, collected, news⟩ := says_iff.mp said
    have plainKeys : ∀ e ∈ es, ∃ key : PlainName, e.1 = key.text :=
      fun e member => plain e.1 e.2 ((news e.1 e.2).mp member)
    exact gives_iff.mpr
      ⟨_, build_append built collected plainKeys, mem_putAll_inSmall_iff news olds laid⟩

end LineService.StandIn
