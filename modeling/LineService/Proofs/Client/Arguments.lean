import LineService.Client.Options
import LineService.Proofs.Text.Numerals

/-!
# What a client is told by its arguments

Arguments are taken from the left, one or two at a time: an option with its value, or a command
(`Item`).  Whatever stands where a value is expected is the value, so items are all that can be
told apart.  Items in order are taken one after the other (`extend_items`), until there are no
arguments left, `--` makes commands of all that follow, or an item is at fault (`extend_cases`).

What arguments say does not depend on what was said before: they fail for everyone or for nobody,
and otherwise set the host, set the port and add commands (`Tells`).  So arguments may be read in
two parts, and what the second part says is laid over what the first one said
(`arguments_said`).
-/

set_option autoImplicit false

namespace LineService.Client

open Numeral (Unsigned)

/-! ## Items -/

/-- The arguments that are no commands among items. -/
def signs : List String := ["--host", "--port", "--"]

/-- What is taken in one go. -/
inductive Item where
  | host (value : String)
  | port (value : String)
  | command (text : String) (plain : text ∉ signs)

/-- The arguments of an item. -/
def Item.spelled : Item → List String
  | .host value => ["--host", value]
  | .port value => ["--port", value]
  | .command text _ => [text]

/-- A text that is a port: a numeral, with or without a plus sign, of a number in its range. -/
def IsPort (value : String) : Prop := ∃ n, Unsigned value.toList n ∧ n ≤ 65535

/-- Items without a fault: their ports are ports. -/
def Sound (items : List Item) : Prop := ∀ value, .port value ∈ items → IsPort value

/-- What is left of arguments that have no further item and are at no fault, and the commands that
it names. -/
inductive Ends : List String → List String → Prop where
  | nothing : Ends [] []
  | commands (rest : List String) : Ends ("--" :: rest) rest

/-- Arguments that begin with a fault, and what is reported of it. -/
inductive Faulty : List String → String → Prop where
  | host : Faulty ["--host"] "--host needs a value"
  | port : Faulty ["--port"] "--port needs a value"
  | value {value : String} (rest : List String) (bad : ¬ IsPort value) :
      Faulty ("--port" :: value :: rest) ("'" ++ value ++ "' is not a valid port")

/-- The option is given a value among the arguments. -/
def Gives (option : String) (arguments : List String) : Prop :=
  ∃ (items : List Item) (value : String) (rest : List String),
    arguments = items.flatMap Item.spelled ++ option :: value :: rest

/-- `--` stands among the arguments, and not as the value of an option. -/
def Closes (arguments : List String) : Prop :=
  ∃ (items : List Item) (rest : List String),
    arguments = items.flatMap Item.spelled ++ "--" :: rest

variable {o : Options} {items before : List Item} {i j : Item}
  {arguments rest tail commands fault : List String} {value message : String} {p : UInt16}

theorem port?_eq_some_iff : port? value = some p ↔ Unsigned value.toList p.toNat := by
  rw [port?, Option.map_eq_some_iff]
  simp only [Numeral.natural?_eq_some_iff]
  constructor
  · rintro ⟨n, ⟨numeral, small⟩, rfl⟩
    rwa [UInt16.toNat_ofNat_of_lt' (Nat.lt_of_le_pred (by decide) small)]
  · intro numeral
    exact ⟨p.toNat, ⟨numeral, Nat.le_pred_of_lt p.toNat_lt⟩, UInt16.ofNat_toNat⟩

theorem isPort_iff : IsPort value ↔ ∃ p, port? value = some p := by
  simp only [port?_eq_some_iff]
  constructor
  · rintro ⟨n, numeral, small⟩
    exact ⟨UInt16.ofNat n, by rwa [UInt16.toNat_ofNat_of_lt' (Nat.lt_succ_of_le small)]⟩
  · rintro ⟨p, numeral⟩
    exact ⟨p.toNat, numeral, Nat.le_of_lt_succ p.toNat_lt⟩

@[simp] theorem sound_nil : Sound [] := nofun

theorem sound_append_iff {more : List Item} :
    Sound (items ++ more) ↔ Sound items ∧ Sound more := by
  simp only [Sound, List.mem_append, or_imp, forall_and]

/-! ## Taking items -/

/-- What is known once an item has been taken. -/
def Options.take (o : Options) : Item → Options
  | .host value => { o with host := value }
  | .port value => { o with port := (port? value).getD o.port }
  | .command text _ => { o with commands := o.commands ++ [text] }

theorem extend_item (sound : Sound [i]) (o : Options) (rest : List String) :
    o.extend (i.spelled ++ rest) = (o.take i).extend rest := by
  cases i with
  | host value => rfl
  | port value =>
      obtain ⟨p, reads⟩ := isPort_iff.mp (sound value List.mem_cons_self)
      simp only [Item.spelled, List.cons_append, List.nil_append, Options.extend, Options.take,
        reads, Option.getD_some]
  | command text plain =>
      simp only [signs, List.mem_cons, List.not_mem_nil, or_false, not_or] at plain
      obtain ⟨noHost, noPort, noEnd⟩ := plain
      rw [Item.spelled, List.singleton_append, Options.extend]
      · rfl
      all_goals simp [noHost, noPort, noEnd]

/-- **Items without a fault are taken one after the other.** -/
theorem extend_items (sound : Sound items) (o : Options) (rest : List String) :
    o.extend (items.flatMap Item.spelled ++ rest) = (items.foldl Options.take o).extend rest := by
  induction items generalizing o with
  | nil => rfl
  | cons i items ih =>
      obtain ⟨here, later⟩ := sound_append_iff.mp (show Sound ([i] ++ items) from sound)
      rw [List.flatMap_cons, List.append_assoc, extend_item here, ih later, List.foldl_cons]

theorem extend_of_ends (ends : Ends tail commands) (o : Options) :
    o.extend tail = .ok { o with commands := o.commands ++ commands } := by
  cases ends with
  | nothing => rw [List.append_nil, Options.extend]
  | commands rest => rfl

theorem exists_error_of_faulty (faulty : Faulty fault message) :
    ∃ e : UsageError, e.message = message ∧ ∀ o : Options, o.extend fault = .error e := by
  cases faulty with
  | host => exact ⟨.needsValue "--host", rfl, fun _ => rfl⟩
  | port => exact ⟨.needsValue "--port", rfl, fun _ => rfl⟩
  | @value value rest bad =>
      refine ⟨.invalidPort value, rfl, fun o => ?_⟩
      have unread : port? value = none := by
        rw [Option.eq_none_iff_forall_ne_some]
        exact fun p reads => bad (isPort_iff.mpr ⟨p, reads⟩)
      rw [Options.extend, unread]

/-- **What arguments can be**: items without a fault, and behind them either the end or a fault. -/
theorem extend_cases : ∀ arguments : List String, ∃ items rest,
    arguments = items.flatMap Item.spelled ++ rest ∧ Sound items ∧
      ((∃ commands, Ends rest commands) ∨ ∃ message, Faulty rest message)
  | [] => ⟨[], [], rfl, sound_nil, .inl ⟨[], .nothing⟩⟩
  | first :: rest => by
    by_cases plain : first ∈ signs
    · simp only [signs, List.mem_cons, List.not_mem_nil, or_false] at plain
      obtain rfl | rfl | rfl := plain
      · match rest with
        | [] => exact ⟨[], _, rfl, sound_nil, .inr ⟨_, .host⟩⟩
        | value :: rest =>
            obtain ⟨items, left, rfl, sound, outcome⟩ := extend_cases rest
            exact ⟨.host value :: items, left, rfl,
              fun v member => sound v (by simpa using member), outcome⟩
      · match rest with
        | [] => exact ⟨[], _, rfl, sound_nil, .inr ⟨_, .port⟩⟩
        | value :: rest =>
            by_cases good : IsPort value
            · obtain ⟨items, left, rfl, sound, outcome⟩ := extend_cases rest
              refine ⟨.port value :: items, left, rfl, fun v member => ?_, outcome⟩
              rcases List.mem_cons.mp member with here | later
              · cases here
                exact good
              · exact sound v later
            · exact ⟨[], _, rfl, sound_nil, .inr ⟨_, .value rest good⟩⟩
      · exact ⟨[], _, rfl, sound_nil, .inl ⟨rest, .commands rest⟩⟩
    · obtain ⟨items, left, rfl, sound, outcome⟩ := extend_cases rest
      exact ⟨.command first plain :: items, left, rfl,
        fun v member => sound v (by simpa using member), outcome⟩

/-! ## What items say -/

/-- The hosts that are given, in order. -/
def hosts (items : List Item) : List String :=
  items.filterMap fun
    | .host value => some value
    | _ => none

/-- The ports that are given, in order. -/
def ports (items : List Item) : List UInt16 :=
  items.filterMap fun
    | .port value => port? value
    | _ => none

/-- The commands among the items, in order. -/
def texts (items : List Item) : List String :=
  items.filterMap fun
    | .command text _ => some text
    | _ => none

/-- The last host and the last port count, and every command does. -/
theorem foldl_take (items : List Item) (o : Options) : items.foldl Options.take o =
    ⟨(hosts items).getLast?.getD o.host, (ports items).getLast?.getD o.port,
      o.commands ++ texts items⟩ := by
  induction items generalizing o with
  | nil => simp [hosts, ports, texts]
  | cons i items ih =>
      rw [List.foldl_cons, ih]
      cases i with
      | host value => simp [Options.take, hosts, ports, texts, List.getLast?_cons]
      | port value =>
          cases reads : port? value with
          | none => simp [Options.take, hosts, ports, texts, reads]
          | some p => simp [Options.take, hosts, ports, texts, reads, List.getLast?_cons]
      | command text plain => simp [Options.take, hosts, ports, texts]

theorem hosts_eq_nil_iff : hosts items = [] ↔ ∀ value, .host value ∉ items := by
  rw [hosts, List.filterMap_eq_nil_iff]
  constructor
  · intro absent value member
    exact nomatch absent _ member
  · intro absent i member
    cases i with
    | host value => exact absurd member (absent value)
    | port | command => rfl

theorem ports_eq_nil_iff (sound : Sound items) :
    ports items = [] ↔ ∀ value, .port value ∉ items := by
  rw [ports, List.filterMap_eq_nil_iff]
  constructor
  · intro absent value member
    obtain ⟨p, reads⟩ := isPort_iff.mp (sound value member)
    exact nomatch reads.symm.trans (absent _ member)
  · intro absent i member
    cases i with
    | port value => exact absurd member (absent value)
    | host | command => rfl

/-! ## Items are told apart in one way only -/

theorem spelled_append_inj {xs ys : List String} (same : i.spelled ++ xs = j.spelled ++ ys) :
    i = j ∧ xs = ys := by
  have apart {text : String} (plain : text ∉ signs) : text ≠ "--host" ∧ text ≠ "--port" := by
    simp only [signs, List.mem_cons, not_or] at plain
    exact ⟨plain.1, plain.2.1⟩
  cases i with
  | host value =>
      cases j with
      | host => simpa [Item.spelled] using same
      | port => simp [Item.spelled] at same
      | command text plain => exact absurd (List.cons.inj same).1.symm (apart plain).1
  | port value =>
      cases j with
      | host => simp [Item.spelled] at same
      | port => simpa [Item.spelled] using same
      | command text plain => exact absurd (List.cons.inj same).1.symm (apart plain).2
  | command text plain =>
      cases j with
      | host => exact absurd (List.cons.inj same).1 (apart plain).1
      | port => exact absurd (List.cons.inj same).1 (apart plain).2
      | command => simpa [Item.spelled] using same

theorem Ends.ne_spelled_append (ends : Ends tail commands) (i : Item) (rest : List String) :
    tail ≠ i.spelled ++ rest := by
  cases ends with
  | nothing => cases i <;> simp [Item.spelled]
  | commands more =>
      cases i with
      | host | port => simp [Item.spelled]
      | command text plain =>
          intro same
          rw [← (List.cons.inj same).1] at plain
          exact plain (by simp [signs])

/-- An item that is found behind others is the next one. -/
theorem exists_later (ends : Ends tail commands) (same : items.flatMap Item.spelled ++ tail =
      before.flatMap Item.spelled ++ (i.spelled ++ rest)) :
    ∃ later, items = before ++ i :: later := by
  induction before generalizing items with
  | nil =>
      cases items with
      | nil => exact absurd same (ends.ne_spelled_append i rest)
      | cons j items =>
          rw [List.flatMap_cons, List.append_assoc, List.flatMap_nil, List.nil_append] at same
          exact ⟨items, by rw [(spelled_append_inj same).1, List.nil_append]⟩
  | cons j before ih =>
      cases items with
      | nil =>
          rw [List.flatMap_cons, List.append_assoc] at same
          exact absurd same (ends.ne_spelled_append j _)
      | cons k items =>
          rw [List.flatMap_cons, List.append_assoc, List.flatMap_cons, List.append_assoc] at same
          obtain ⟨rfl, rest_eq⟩ := spelled_append_inj same
          obtain ⟨later, rfl⟩ := ih rest_eq
          exact ⟨later, rfl⟩

theorem gives_iff (item : String → Item) {option : String}
    (spells : ∀ value, (item value).spelled = [option, value]) (ends : Ends tail commands) :
    Gives option (items.flatMap Item.spelled ++ tail) ↔ ∃ value, item value ∈ items := by
  constructor
  · rintro ⟨before, value, rest, same⟩
    have next : option :: value :: rest = (item value).spelled ++ rest := by rw [spells]; rfl
    obtain ⟨later, rfl⟩ := exists_later ends (next ▸ same)
    exact ⟨value, by simp⟩
  · rintro ⟨value, member⟩
    obtain ⟨before, later, rfl⟩ := List.append_of_mem member
    exact ⟨before, value, later.flatMap Item.spelled ++ tail, by simp [spells]⟩

/-! ## What arguments say -/

/-- What arguments say, whatever is known before: a host if they give one, a port if they give
one, and commands. -/
structure Tells (arguments : List String) (host : Option String) (port : Option UInt16)
    (commands : List String) : Prop where
  extend_eq : ∀ o : Options, o.extend arguments =
    .ok ⟨host.getD o.host, port.getD o.port, o.commands ++ commands⟩
  host_iff : Gives "--host" arguments ↔ host ≠ none
  port_iff : Gives "--port" arguments ↔ port ≠ none

theorem tells_of_ends (sound : Sound items) (ends : Ends tail commands) :
    Tells (items.flatMap Item.spelled ++ tail) (hosts items).getLast? (ports items).getLast?
      (texts items ++ commands) where
  extend_eq o := by
    rw [extend_items sound, extend_of_ends ends, foldl_take, List.append_assoc]
  host_iff := by
    rw [gives_iff .host (fun _ => rfl) ends, ne_eq, List.getLast?_eq_none_iff,
      hosts_eq_nil_iff, not_forall_not]
  port_iff := by
    rw [gives_iff .port (fun _ => rfl) ends, ne_eq, List.getLast?_eq_none_iff,
      ports_eq_nil_iff sound, not_forall_not]

/-- **Arguments say the same or fail alike, whatever is known before.** -/
theorem tells_or_fails (arguments : List String) :
    (∃ host port commands, Tells arguments host port commands) ∨
      ∃ e, ∀ o : Options, o.extend arguments = .error e := by
  obtain ⟨items, rest, rfl, sound, ⟨commands, ends⟩ | ⟨message, faulty⟩⟩ := extend_cases arguments
  · exact .inl ⟨_, _, _, tells_of_ends sound ends⟩
  · obtain ⟨e, -, fails⟩ := exists_error_of_faulty faulty
    exact .inr ⟨e, fun o => by rw [extend_items sound, fails]⟩

/-- Arguments that are read and have no `--` among them may be followed by others. -/
theorem read_append {a : List String} (reads : Options.read a = .ok o) (goesOn : ¬ Closes a)
    (b : List String) : Options.read (a ++ b) = o.extend b := by
  obtain ⟨items, rest, rfl, sound, ⟨commands, ends⟩ | ⟨message, faulty⟩⟩ := extend_cases a
  · cases ends with
    | nothing =>
        rw [Options.read, extend_items sound, Options.extend] at reads
        cases reads
        rw [List.append_nil, Options.read, extend_items sound]
    | commands => exact absurd ⟨items, commands, rfl⟩ goesOn
  · obtain ⟨e, -, fails⟩ := exists_error_of_faulty faulty
    rw [Options.read, extend_items sound, fails] at reads
    cases reads

/-- **Arguments fail with what is reported of the first fault among them.** -/
theorem read_fails_iff :
    (Options.read arguments).mapError UsageError.message = .error message ↔
      ∃ before fault, arguments = before.flatMap Item.spelled ++ fault ∧ Sound before ∧
        Faulty fault message := by
  constructor
  · intro fails
    obtain ⟨items, rest, rfl, sound, ⟨commands, ends⟩ | ⟨message', faulty⟩⟩ :=
      extend_cases arguments
    · rw [Options.read, extend_items sound, extend_of_ends ends] at fails
      cases fails
    · obtain ⟨e, rfl, fails'⟩ := exists_error_of_faulty faulty
      rw [Options.read, extend_items sound, fails'] at fails
      cases fails
      exact ⟨items, rest, rfl, sound, faulty⟩
  · rintro ⟨before, fault, rfl, sound, faulty⟩
    obtain ⟨e, rfl, fails⟩ := exists_error_of_faulty faulty
    rw [Options.read, extend_items sound, fails]
    rfl

/-- What is given counts, whatever is known before. -/
theorem getD_of_ne_none {α : Type} {a : Option α} {b b' : α} (given : a ≠ none) :
    a.getD b = a.getD b' := by
  obtain ⟨c, rfl⟩ := Option.ne_none_iff_exists'.mp given
  rfl

theorem getD_of_not_ne_none {α : Type} {a : Option α} {b : α} (missing : ¬ a ≠ none) :
    a.getD b = b := by
  rw [not_not.mp missing, Option.getD_none]

/-- **Arguments can be put together, and can say everything.**

* Any host, any port and any commands, whatever they look like, can be said: behind `--host`, the
  decimal form of the port behind `--port`, and the commands behind `--`.
* Arguments that are read and have no `--` among them but as a value may be followed by any
  others.  These are read as by someone who knows what the first ones said: they fail exactly as
  they would alone, and otherwise the host and the port that they give replace those given
  before, and their commands come behind the commands before.
* Arguments fail exactly if items without a fault are followed by an option that has no value, or
  by a port that is none; that is reported. -/
theorem arguments_said :
    (∀ (host : String) (port : UInt16) (commands : List String),
      Options.read (["--host", host, "--port", toString port.toNat, "--"] ++ commands) =
        .ok ⟨host, port, commands⟩) ∧
    (∀ (a b : List String) (o : Options), Options.read a = .ok o → ¬ Closes a →
      Options.read (a ++ b) = o.extend b ∧
      (∀ e, Options.read (a ++ b) = .error e ↔ Options.read b = .error e) ∧
      ∀ later, Options.read b = .ok later → ∃ both, Options.read (a ++ b) = .ok both ∧
        (Gives "--host" b → both.host = later.host) ∧ (¬ Gives "--host" b → both.host = o.host) ∧
        (Gives "--port" b → both.port = later.port) ∧ (¬ Gives "--port" b → both.port = o.port) ∧
        both.commands = o.commands ++ later.commands) ∧
    ∀ (arguments : List String) (message : String),
      (Options.read arguments).mapError UsageError.message = .error message ↔
        ∃ before fault, arguments = before.flatMap Item.spelled ++ fault ∧ Sound before ∧
          Faulty fault message := by
  refine ⟨fun host port commands => ?whole, fun a b o reads goesOn => ?append,
    fun _ _ => read_fails_iff⟩
  case whole =>
    have reads : port? (toString port.toNat) = some port :=
      port?_eq_some_iff.mpr (Numeral.unsigned_toString _)
    have sound : Sound [.host host, .port (toString port.toNat)] := by
      intro value member
      have here : value = toString port.toNat := by simpa using member
      exact isPort_iff.mpr ⟨port, here ▸ reads⟩
    change Options.read ([.host host, .port (toString port.toNat)].flatMap Item.spelled ++
      "--" :: commands) = _
    rw [Options.read, extend_items sound, extend_of_ends (.commands commands), List.foldl_cons,
      List.foldl_cons, List.foldl_nil, Options.take, Options.take, reads]
    rfl
  case append =>
    rw [read_append reads goesOn]
    refine ⟨rfl, ?_⟩
    rcases tells_or_fails b with ⟨host, port, commands, tells⟩ | ⟨e, fails⟩
    · rw [Options.read, tells.extend_eq, tells.extend_eq, tells.host_iff, tells.port_iff]
      refine ⟨fun e => iff_of_false nofun nofun, ?_⟩
      rintro later ⟨⟩
      refine ⟨_, rfl, ?_, ?_, ?_, ?_, rfl⟩
      · exact getD_of_ne_none
      · exact getD_of_not_ne_none
      · exact getD_of_ne_none
      · exact getD_of_not_ne_none
    · rw [Options.read, fails, fails]
      exact ⟨fun _ => Iff.rfl, nofun⟩

/-- `--` is a host here, and `--host` a command. -/
example : Options.read (["--host", "--", "PING"] ++ ["--port", "+080", "--", "--host"]) =
    .ok ⟨"--", 80, ["PING", "--host"]⟩ := by
  decide

end LineService.Client
