import LineService.Proofs.Settings.Acceptance
import LineService.Proofs.StandIn.Documented

/-!
# Loading plain settings

What a plain settings file says is what its rows say, and the environment counts before the file:
under every name in small letters, the settings of a server are read from the text that the variable
of that name sets, as it is, or else from the text of the last row with that key, without the blanks
around it (`load_rows`).  This is so with any library that keeps to its documentation.
-/

set_option autoImplicit false

namespace LineService.Settings

variable {library : Library} {rows : List Row} {environment : List (String × String)}

/-! ## Both sources together -/

/-- What a plain environment sets, it sets under plain names in small letters. -/
theorem small_of_mem_settings (plain : ∀ v ∈ environment, PlainVariable variableOpening v)
    {e : String × String} (member : e ∈ environment.filterMap (setting? variableOpening)) :
    ∃ name : PlainName, e.1 = name.text ∧ Text.lower e.1 = e.1 := by
  obtain ⟨v, there, sets⟩ := List.mem_filterMap.mp member
  exact @PlainVariable.small serverOpening v e (plain v there) sets

/-- Names under which something is gathered are in small letters. -/
theorem lower_of_gathered {name text : String}
    (plain : ∀ v ∈ environment, PlainVariable variableOpening v)
    (found : gathered rows environment name = some text) : Text.lower name = name := by
  rcases Option.or_eq_some_iff.mp found with set | ⟨-, written⟩
  · rw [← lastUnder_setting?] at set
    obtain ⟨_, _, small⟩ := small_of_mem_settings plain (mem_of_lastUnder set)
    exact small
  · obtain ⟨e, member, here⟩ := List.mem_map.mp (mem_of_lastUnder written)
    obtain ⟨key, named⟩ := plain_of_mem_given member
    cases here
    rw [named]
    exact key.lower_lower

/-- **A file of plain rows and a plain environment give what is gathered from them.** -/
theorem Library.Documented.gives_origins (documented : library.Documented) (path : String)
    (apart : ToldApart Text.lower (given rows))
    (plain : ∀ v ∈ environment, PlainVariable variableOpening v)
    (once : ((environment.filterMap (setting? variableOpening)).map Prod.fst).Nodup) :
    library.Gives (library.origins variableOpening path (some (fileOf rows)) environment)
      (gathered rows environment) := by
  have file : library.Gives [library.ini path (fileOf rows)] (writtenIn rows) := by
    refine documented.later_source [] _ _ _ _ documented.no_source
      (documented.says_rows path rows) ?keys ?laid
    case keys =>
      intro key text found
      exact plain_of_mem_given (mem_of_lastUnder found)
    case laid =>
      have laid := overlays_lastUnder apart fun _ => none
      simp only [Option.or_none] at laid
      exact laid
  refine documented.later_source [_] _ _ _ _ file
    (documented.says_environment serverOpening plain once) ?keys ?laid
  case keys =>
    intro key text found
    obtain ⟨name, named, -⟩ := small_of_mem_settings plain (mem_of_lastUnder found)
    exact ⟨name, named⟩
  case laid =>
    have small : ∀ e ∈ environment.filterMap (setting? variableOpening), Text.lower e.1 = e.1 := by
      intro e member
      obtain ⟨_, _, small⟩ := small_of_mem_settings plain member
      exact small
    have both : gathered rows environment = fun name =>
        (lastUnder name (environment.filterMap (setting? variableOpening))).or
          (writtenIn rows name) := by
      funext name
      rw [lastUnder_setting?, gathered]
    rw [both]
    exact overlays_of_small small (writtenIn rows)

/-! ## Loading -/

/-- **A plain settings file is read as it is written, under the environment.**  There is a table in
which the environment counts before the rows, and which has nothing else; and whatever is in it,
loading gives what the settings of such a table are.  Keys of the file that differ in the case of
letters only are excluded, and so are two variables of one name. -/
theorem load_rows (documented : library.Documented) (path : String)
    (apart : ToldApart Text.lower (given rows))
    (plain : ∀ v ∈ environment, PlainVariable variableOpening v)
    (once : ((environment.filterMap (setting? variableOpening)).map Prod.fst).Nodup) :
    (∃ t, Gathers rows environment t) ∧
    ∀ t, Gathers rows environment t → library.load path (some (fileOf rows)) environment =
      match ofTable t with
      | .ok settings => .ok (settings, .file path)
      | .error e => .error (.invalid e) := by
  obtain ⟨config, table, built, read, members⟩ :=
    documented.gives_origins path apart plain once
  -- small letters change no name of the table, as all its names are in small letters
  have small : inSmall table = table := by
    apply inSmall_of_small
    intro e member
    exact lower_of_gathered plain ((members e.1 e.2).mp member)
  have gathers : Gathers rows environment (inSmall table).reverse := by
    intro name
    rw [small]
    exact lastUnder_eq_of_mem members name
  refine ⟨⟨_, gathers⟩, fun t gathers' => ?_⟩
  have same : ofTable t = ofTable (inSmall table).reverse := by
    apply ofTable_congr
    intro name _
    rw [gathers, gathers']
  rw [Library.load, Library.loadWith, built, same]
  simp only [bind, Except.bind, Except.mapError, read]
  cases ofTable (inSmall table).reverse <;> rfl

/-- A file with rows of every kind, the last of which is not ended. -/
def sampleRows : List Row := [
  .comment '#' (.inl rfl) " the server" (by decide),
  .blank " \t" (by simp),
  .entry ⟨"PORT", by decide, List.all_eq_true.mp rfl⟩ 1 ⟨" 7000", by decide, by decide⟩,
  .entry ⟨"Log_File", by decide, List.all_eq_true.mp rfl⟩ 0
    ⟨"\ta=b:c#d;'e\t", by decide, by decide⟩,
  .entry ⟨"PORT", by decide, List.all_eq_true.mp rfl⟩ 0 ⟨"9090", by decide, by decide⟩]

def sampleEnvironment : List (String × String) :=
  [("PATH", "/bin"), ("LINE_SERVER_Thread_Pool_Size", " 8")]

theorem load_sample :
    StandIn.library.Documented ∧ ToldApart Text.lower (given sampleRows) ∧
    (∀ v ∈ sampleEnvironment, PlainVariable variableOpening v) ∧
    ((sampleEnvironment.filterMap (setting? variableOpening)).map Prod.fst).Nodup ∧
    StandIn.library.load "server.conf" (some (fileOf sampleRows)) sampleEnvironment =
      .ok (⟨9090, 8, 100, .info, some "a=b:c#d;'e"⟩, .file "server.conf") := by
  have apart : ToldApart Text.lower (given sampleRows) := by
    unfold ToldApart
    decide
  have plain : ∀ v ∈ sampleEnvironment, PlainVariable variableOpening v := by
    rw [sampleEnvironment, List.forall_mem_cons, List.forall_mem_singleton]
    exact ⟨.inr (by decide), .inl ⟨⟨"Thread_Pool_Size", by decide, List.all_eq_true.mp rfl⟩, rfl⟩⟩
  have once : ((sampleEnvironment.filterMap (setting? variableOpening)).map Prod.fst).Nodup := by
    decide
  refine ⟨StandIn.documented, apart, plain, once, ?_⟩
  obtain ⟨⟨t, gathers⟩, loads⟩ := load_rows StandIn.documented "server.conf" apart plain once
  have settings : ofTable t = ofTable [("port", "9090"), ("thread_pool_size", " 8"),
      ("log_file", "a=b:c#d;'e")] := by
    refine ofTable_congr fun name known => ?_
    rw [gathers]
    revert name
    decide
  rw [loads t gathers, settings]
  decide

end LineService.Settings
