import LineService.Proofs.Text.Ends
import LineService.Proofs.Text.Numerals
import LineService.Settings.Basic

/-!
# Which settings are accepted

Three settings are numbers, each with a range of its own.  A number that is set counts as the one
that its text writes, blanks around it apart, and a number that is not set as the one that holds
where nothing is said (`Amounts`).  Settings are accepted exactly if each number that is set is in
its range, whatever else is set.

The numbers are looked at in a fixed order, and the first one that is not in its range is reported
as it was set, blanks included (`Refused`).  The number of connections that may wait is read before
it is compared with its least value, so one that is too small is reported as a number (`TooFew`).
-/

set_option autoImplicit false

namespace LineService.Settings

open Numeral (Signed Unsigned)

variable {t u : Table} {name value : String} {e : Invalid}

/-! ## One number -/

section Number

variable {ι : Type} {read : String → Option ι} {writes : List Char → ι → Prop} {fallback n : ι}

/-- What a number comes to: what its text writes, or the fallback where it is not set. -/
inductive Amounts (t : Table) (name : String) (writes : List Char → ι → Prop) (fallback : ι) :
    ι → Prop where
  | unset (missing : t.lookup name = none) : Amounts t name writes fallback fallback
  | set {value : String} {n : ι} (found : t.lookup name = some value)
      (here : writes (Text.strip value).toList n) : Amounts t name writes fallback n

/-- A number writes something if it is set. -/
def Allows (t : Table) (name : String) (writes : List Char → ι → Prop) : Prop :=
  ∀ value, t.lookup name = some value → ∃ n, writes (Text.strip value).toList n

/-- A number that is set writes nothing, and is reported as it was set. -/
def Refused (t : Table) (name : String) (writes : List Char → ι → Prop) (e : Invalid) : Prop :=
  ∃ value, t.lookup name = some value ∧ (¬ ∃ n, writes (Text.strip value).toList n) ∧
    e = ⟨name, value⟩

theorem number_eq_ok_iff (reads : ∀ s n, read s = some n ↔ writes s.toList n) :
    number t name read fallback = .ok n ↔ Amounts t name writes fallback n := by
  constructor
  · intro gives
    unfold number at gives
    split at gives
    · rename_i missing
      cases gives
      exact .unset missing
    · rename_i value found
      split at gives
      · rename_i m here
        cases gives
        exact .set found ((reads _ _).mp here)
      · cases gives
  · intro amounts
    cases amounts with
    | unset missing => rw [number, missing]
    | set found here => simp only [number, found, (reads _ _).mpr here]

theorem number_eq_error_iff (reads : ∀ s n, read s = some n ↔ writes s.toList n) :
    number t name read fallback = .error e ↔ Refused t name writes e := by
  constructor
  · intro fails
    unfold number at fails
    split at fails
    · cases fails
    · rename_i value found
      split at fails
      · cases fails
      · rename_i unread
        cases fails
        refine ⟨value, found, ?_, rfl⟩
        rintro ⟨n, here⟩
        exact nomatch unread.symm.trans ((reads _ _).mpr here)
  · rintro ⟨value, found, bad, rfl⟩
    have unread : read (Text.strip value) = none :=
      Option.eq_none_iff_forall_ne_some.mpr fun n here => bad ⟨n, (reads _ _).mp here⟩
    simp only [number, found, unread]

theorem exists_amounts_iff :
    (∃ n, Amounts t name writes fallback n) ↔ Allows t name writes := by
  constructor
  · rintro ⟨n, amounts⟩ value found
    cases amounts with
    | unset missing => exact nomatch missing.symm.trans found
    | set found' here =>
        cases found.symm.trans found'
        exact ⟨n, here⟩
  · intro allows
    cases found : t.lookup name with
    | none => exact ⟨fallback, .unset found⟩
    | some value =>
        obtain ⟨n, here⟩ := allows value found
        exact ⟨n, .set found here⟩

end Number

/-! ## The three numbers -/

/-- A port. -/
def Port (cs : List Char) (n : Nat) : Prop := Unsigned cs n ∧ n ≤ 2 ^ 16 - 1

/-- A number of workers. -/
def Workers (cs : List Char) (n : Nat) : Prop := Unsigned cs n ∧ n ≤ 2 ^ 64 - 1

/-- A number of 32 bits. -/
def Word (cs : List Char) (n : Int) : Prop := Signed cs n ∧ -2 ^ 31 ≤ n ∧ n ≤ 2 ^ 31 - 1

/-- A number of connections that may wait. -/
def Backlog (cs : List Char) (n : Int) : Prop := Signed cs n ∧ 1 ≤ n ∧ n ≤ 2 ^ 31 - 1

/-- There is no room for a connection that waits: the number of these is a number, but too small,
and is reported as a number. -/
def TooFew (t : Table) (e : Invalid) : Prop :=
  ∃ value n, t.lookup "max_connections" = some value ∧ Word (Text.strip value).toList n ∧ n ≤ 0 ∧
    e = ⟨"max_connections", toString n⟩

theorem reads_word (s : String) (n : Int) :
    Numeral.integer? Int32.minValue.toInt Int32.maxValue.toInt s = some n ↔ Word s.toList n :=
  Numeral.integer?_eq_some_iff

theorem reads_port (s : String) (n : Nat) :
    Numeral.natural? (UInt16.size - 1) s = some n ↔ Port s.toList n :=
  Numeral.natural?_eq_some_iff

theorem reads_workers (s : String) (n : Nat) :
    Numeral.natural? (UInt64.size - 1) s = some n ↔ Workers s.toList n :=
  Numeral.natural?_eq_some_iff

theorem bind_eq_ok_iff {ε α β : Type} {x : Except ε α} {f : α → Except ε β} {b : β} :
    (x >>= f) = .ok b ↔ ∃ a, x = .ok a ∧ f a = .ok b := by
  cases x with
  | error e => exact iff_of_false nofun nofun
  | ok a => simp [bind, Except.bind]

theorem bind_eq_error_iff {ε α β : Type} {x : Except ε α} {f : α → Except ε β} {e : ε} :
    (x >>= f) = .error e ↔ x = .error e ∨ ∃ a, x = .ok a ∧ f a = .error e := by
  cases x with
  | error e => simp [bind, Except.bind]
  | ok a => simp [bind, Except.bind]

theorem readBacklog_eq_ok_iff {n : Int} :
    readBacklog t = .ok n ↔ Amounts t "max_connections" Backlog 100 n := by
  simp only [readBacklog, bind_eq_ok_iff, number_eq_ok_iff reads_word]
  constructor
  · rintro ⟨m, amounts, result⟩
    split at result
    · cases result
    · rename_i room
      cases result
      cases amounts with
      | unset missing => exact .unset missing
      | set found here => exact .set found ⟨here.1, by omega, here.2.2⟩
  · intro amounts
    cases amounts with
    | unset missing => exact ⟨_, .unset missing, rfl⟩
    | set found here =>
        obtain ⟨numeral, room, bound⟩ := here
        exact ⟨_, .set found ⟨numeral, by omega, bound⟩, if_neg (by omega)⟩

theorem readBacklog_eq_error_iff :
    readBacklog t = .error e ↔ Refused t "max_connections" Word e ∨ TooFew t e := by
  simp only [readBacklog, bind_eq_error_iff, number_eq_ok_iff reads_word,
    number_eq_error_iff reads_word]
  refine or_congr_right ⟨?_, ?_⟩
  · rintro ⟨n, amounts, result⟩
    split at result
    · rename_i few
      cases result
      cases amounts with
      | unset => exact absurd few (by decide)
      | set found here => exact ⟨_, n, found, here, few, rfl⟩
    · cases result
  · rintro ⟨value, n, found, here, few, rfl⟩
    exact ⟨n, .set found here, if_pos few⟩

/-! ## The log file -/

/-- The file to write records to: what is set without blanks around it, if that is anything. -/
inductive LogFile (t : Table) : Option String → Prop where
  | unset (missing : t.lookup "log_file" = none) : LogFile t none
  | blank {value : String} (found : t.lookup "log_file" = some value)
      (blank : ∀ c ∈ value.toList, Text.isBlank c = true) : LogFile t none
  | set {value : String} (found : t.lookup "log_file" = some value)
      (text : ¬ ∀ c ∈ value.toList, Text.isBlank c = true) : LogFile t (some (Text.strip value))

theorem logFile_readLogFile (t : Table) : LogFile t (readLogFile t) := by
  unfold readLogFile
  cases found : t.lookup "log_file" with
  | none => exact .unset found
  | some value =>
      by_cases blank : ∀ c ∈ value.toList, Text.isBlank c = true
      · rw [Option.map_some, Text.strip_eq_empty_iff.mpr blank]
        exact .blank found blank
      · have nonempty : Text.strip value ≠ "" := mt Text.strip_eq_empty_iff.mp blank
        rw [Option.map_some, Option.filter_some, if_pos (decide_eq_true nonempty)]
        exact .set found blank

/-! ## All settings -/

/-- **What settings come to**, if they are accepted. -/
theorem ofTable_eq_ok_iff {s : Settings} : ofTable t = .ok s ↔
    Amounts t "max_connections" Backlog 100 s.backlog ∧
    Amounts t "port" Port 8080 s.port.toNat ∧
    Amounts t "thread_pool_size" Workers 4 s.workers.toNat ∧
    s.threshold = ((t.lookup "log_level").map Journal.Level.ofSetting).getD .info ∧
    s.logFile = readLogFile t := by
  simp only [ofTable, bind_eq_ok_iff, readBacklog_eq_ok_iff, number_eq_ok_iff reads_port,
    number_eq_ok_iff reads_workers]
  constructor
  · rintro ⟨backlog, amounts, port, amounts', workers, amounts'', result⟩
    cases result
    have port_lt : port < UInt16.size := by
      cases amounts' with
      | unset => decide
      | set _ here => exact Nat.lt_of_le_pred (by decide) here.2
    have workers_lt : workers < UInt64.size := by
      cases amounts'' with
      | unset => decide
      | set _ here => exact Nat.lt_of_le_pred (by decide) here.2
    refine ⟨amounts, ?_, ?_, rfl, rfl⟩
    · rwa [UInt16.toNat_ofNat_of_lt' port_lt]
    · rwa [UInt64.toNat_ofNat_of_lt' workers_lt]
  · rintro ⟨amounts, amounts', amounts'', threshold, logFile⟩
    refine ⟨_, amounts, _, amounts', _, amounts'', ?_⟩
    rw [UInt16.ofNat_toNat, UInt64.ofNat_toNat]
    obtain ⟨port, workers, backlog, threshold', logFile'⟩ := s
    cases threshold
    cases logFile
    rfl

/-- **Why settings are not accepted**: the first number that is not in its range. -/
theorem ofTable_eq_error_iff : ofTable t = .error e ↔
    (Refused t "max_connections" Word e ∨ TooFew t e) ∨
    Allows t "max_connections" Backlog ∧ (Refused t "port" Port e ∨
      Allows t "port" Port ∧ Refused t "thread_pool_size" Workers e) := by
  simp only [ofTable, bind_eq_error_iff, readBacklog_eq_error_iff, readBacklog_eq_ok_iff,
    number_eq_ok_iff reads_port, number_eq_error_iff reads_port,
    number_eq_error_iff reads_workers, reduceCtorEq, and_false, exists_false, or_false,
    exists_and_right, exists_amounts_iff]

/-- **Settings are accepted exactly if every number that is set is in its range.** -/
theorem ofTable_accepts_iff : (∃ s, ofTable t = .ok s) ↔
    Allows t "max_connections" Backlog ∧ Allows t "port" Port ∧
      Allows t "thread_pool_size" Workers := by
  constructor
  · rintro ⟨s, accepted⟩
    obtain ⟨backlog, port, workers, -, -⟩ := ofTable_eq_ok_iff.mp accepted
    exact ⟨exists_amounts_iff.mp ⟨_, backlog⟩, exists_amounts_iff.mp ⟨_, port⟩,
      exists_amounts_iff.mp ⟨_, workers⟩⟩
  · rintro ⟨backlog, port, workers⟩
    simp only [ofTable, bind_eq_ok_iff, readBacklog_eq_ok_iff, number_eq_ok_iff reads_port,
      number_eq_ok_iff reads_workers]
    obtain ⟨b, backlog⟩ := exists_amounts_iff.mpr backlog
    obtain ⟨p, port⟩ := exists_amounts_iff.mpr port
    obtain ⟨w, workers⟩ := exists_amounts_iff.mpr workers
    exact ⟨_, b, backlog, p, port, w, workers, rfl⟩

/-- Nothing but the five names is looked up. -/
theorem ofTable_congr (same : ∀ name ∈ ["max_connections", "port", "thread_pool_size", "log_level",
    "log_file"], u.lookup name = t.lookup name) : ofTable u = ofTable t := by
  simp only [List.forall_mem_cons] at same
  obtain ⟨backlog, port, workers, level, file, -⟩ := same
  simp only [ofTable, readBacklog, readLogFile, number, backlog, port, workers, level, file]

/-- **Exactly the settings in their ranges are accepted, and the first other one is reported.**

* Settings are accepted exactly if every number that is set is written by its text, blanks around
  it apart, and lies in its range: 1 to 2³¹ - 1 connections that wait, a port below 2¹⁶, fewer
  than 2⁶⁴ workers.
* Then these numbers count, or the standard ones where nothing is set; the log file is what is set
  without the blanks around it, if that is anything; and whatever the level says, there is one.
* Otherwise the first number that is not in its range is reported, the connections before the
  port and the port before the workers: as it was set, or, where the connections are a number of
  32 bits but too few, as that number.
* Nothing else that may be set makes a difference. -/
theorem settings_accepted (t : Table) :
    ((∃ s, ofTable t = .ok s) ↔ Allows t "max_connections" Backlog ∧ Allows t "port" Port ∧
      Allows t "thread_pool_size" Workers) ∧
    (∀ s, ofTable t = .ok s →
      Amounts t "max_connections" Backlog 100 s.backlog ∧
      Amounts t "port" Port 8080 s.port.toNat ∧
      Amounts t "thread_pool_size" Workers 4 s.workers.toNat ∧ LogFile t s.logFile ∧
      s.threshold = ((t.lookup "log_level").map Journal.Level.ofSetting).getD .info) ∧
    (∀ e, ofTable t = .error e ↔
      (Refused t "max_connections" Word e ∨ TooFew t e) ∨
      Allows t "max_connections" Backlog ∧ (Refused t "port" Port e ∨
        Allows t "port" Port ∧ Refused t "thread_pool_size" Workers e)) ∧
    ∀ u : Table, (∀ name ∈ ["max_connections", "port", "thread_pool_size", "log_level",
      "log_file"], u.lookup name = t.lookup name) → ofTable u = ofTable t := by
  refine ⟨ofTable_accepts_iff, fun s accepted => ?_, fun _ => ofTable_eq_error_iff,
    fun _ => ofTable_congr⟩
  obtain ⟨backlog, port, workers, threshold, logFile⟩ := ofTable_eq_ok_iff.mp accepted
  exact ⟨backlog, port, workers, logFile ▸ logFile_readLogFile t, threshold⟩

/-- The connections are looked at before the port, and are a number here, if one too small. -/
example : ofTable [("port", "70000"), ("max_connections", " -00 ")] =
    .error ⟨"max_connections", "0"⟩ := by
  decide

end LineService.Settings
