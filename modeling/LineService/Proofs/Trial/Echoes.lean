import LineService.Proofs.Client.Dialogues
import LineService.Trial.Load

/-!
# What one client counts

A client asks for the echo of one payload after the other, as long as its connection lasts
(`said_of_echoes`).  `unechoed` is the number of payloads that did not come back as the
reply to their own request, be it that the reply was another text, that there was none, or that
the request was never made.  That is what the client counts, whatever the replies are
(`failed_of_echoes`).  It counts the requests behind a loss without making them, by a
subtraction that never goes below zero: up to then at most all requests before the loss have
failed.

No two requests of a test share a payload (`payload_inj`), so a reply that was meant for another
request is never taken for an echo.
-/

set_option autoImplicit false

namespace LineService.Trial

open Client (Reply)
open Client.Dialogue (Exchanged exchanged_done_iff)

variable {payloads : List String} {p : String} {replies : List Reply}

/-! ## Payloads that did not come back -/

/-- How many payloads did not come back as the reply to their own request. -/
def unechoed (payloads : List String) (replies : List Reply) : Nat :=
  (List.range payloads.length).countP fun n => replies[n]? ≠ payloads[n]?.map .line

theorem unechoed_unanswered (payloads : List String) :
    unechoed payloads [] = payloads.length := by
  rw [unechoed, List.countP_eq_length.mpr, List.length_range]
  intro n here
  simp [List.getElem?_eq_getElem (List.mem_range.mp here)]

theorem unechoed_cons (p : String) (payloads : List String) (r : Reply) (replies : List Reply) :
    unechoed (p :: payloads) (r :: replies) =
      unechoed payloads replies + if r = .line p then 0 else 1 := by
  rw [unechoed, List.length_cons, List.range_succ_eq_map, List.countP_cons, List.countP_map]
  simp [unechoed, Function.comp_def]

theorem unechoed_le (payloads : List String) (replies : List Reply) :
    unechoed payloads replies ≤ payloads.length := by
  simpa [unechoed] using List.countP_le_length (l := List.range payloads.length)

theorem unechoed_eq_zero_iff : unechoed payloads replies = 0 ↔
    ∀ (n : Nat) (p : String), payloads[n]? = some p → replies[n]? = some (.line p) := by
  rw [unechoed, List.countP_eq_zero]
  constructor
  · intro all n p here
    have less := (List.getElem?_eq_some_iff.mp here).1
    simpa [here] using all n (List.mem_range.mpr less)
  · intro all n here
    have less := List.mem_range.mp here
    simp [all n _ (List.getElem?_eq_getElem less), less]

/-! ## Counting without going wrong -/

variable {client sequence failed : Nat}

theorem sum?_one (few : failed < requestsPerClient) : sum? failed 1 = some (failed + 1) := by
  have bounded : failed + 1 < UInt64.size := Nat.lt_of_le_of_lt few (by decide)
  rw [sum?, if_pos bounded]

/-- The subtraction at a loss: all requests from the lost one on have failed. -/
theorem failedAtLoss_eq (before : failed ≤ sequence) (place : sequence ≤ requestsPerClient) :
    failedAtLoss sequence failed = some (failed + (requestsPerClient - sequence)) := by
  have all : failed + requestsPerClient ≤ requestsPerClient + requestsPerClient := by omega
  have bounded : failed + requestsPerClient < UInt64.size := Nat.lt_of_le_of_lt all (by decide)
  have enough : sequence ≤ failed + requestsPerClient := by omega
  rw [failedAtLoss, sum?, if_pos bounded, Option.bind_some, difference?, if_pos enough,
    Nat.add_sub_assoc place]

/-! ## What a client says and counts -/

variable {d : Client.Dialogue Finding} {xs : List (String × Reply)} {f : Finding}
  {rest : List String}

/-- The client notes that it got `text` for `p`, besides what it finds later. -/
def noting (client : Nat) (p text : String) (d : Client.Dialogue Finding) :
    Client.Dialogue Finding :=
  d.bind fun f => .done ⟨f.failed, wrongEcho client p text :: f.records⟩

/-- How far a client can have come that asks for the echo of `p` first. -/
inductive Echoing (client sequence failed : Nat) (p : String) (rest : List String) :
    List (String × Reply) → Client.Dialogue Finding → Prop where
  | unasked (go : Reply → Client.Dialogue Finding) :
      Echoing client sequence failed p rest [] (.ask (Request.echo p).wire go)
  | echoed {xs : List (String × Reply)} {d : Client.Dialogue Finding}
      (later : Exchanged (echoes client (sequence + 1) failed rest) xs d) :
      Echoing client sequence failed p rest (((Request.echo p).wire, .line p) :: xs) d
  | wrong {text : String} {n : Nat} {xs : List (String × Reply)} {d : Client.Dialogue Finding}
      (other : text ≠ p) (counted : sum? failed 1 = some n)
      (later : Exchanged (echoes client (sequence + 1) n rest) xs d) :
      Echoing client sequence failed p rest (((Request.echo p).wire, .line text) :: xs)
        (noting client p text d)
  | broughtDown {text : String} (other : text ≠ p) (uncounted : sum? failed 1 = none) :
      Echoing client sequence failed p rest [((Request.echo p).wire, .line text)]
        (.done ⟨none, [wrongEcho client p text]⟩)
  | lost {r : Reply} (records : List Journal.Record) (lost : ∀ text, r ≠ .line text) :
      Echoing client sequence failed p rest [((Request.echo p).wire, r)]
        (.done ⟨failedAtLoss sequence failed, records⟩)

theorem echoing_of_exchanged
    (exchanged : Exchanged (echoes client sequence failed (p :: rest)) xs d) :
    Echoing client sequence failed p rest xs d := by
  rw [echoes] at exchanged
  cases exchanged with
  | refl => exact .unasked _
  | @cons _ _ r xs _ later =>
      cases r with
      | line text =>
          by_cases same : text = p
          · subst same
            exact .echoed (by simpa using later)
          · simp only [if_neg same] at later
            cases counted : sum? failed 1 with
            | none =>
                rw [counted] at later
                obtain ⟨rfl, rfl⟩ := exchanged_done_iff.mp later
                exact .broughtDown same counted
            | some n =>
                rw [counted] at later
                obtain ⟨d', further, rfl⟩ := Exchanged.of_bind later
                exact .wrong same counted further
      | closed | trouble =>
          obtain ⟨rfl, rfl⟩ := exchanged_done_iff.mp later
          exact .lost _ nofun

/-- **A client asks for one echo after the other**, and for nothing else. -/
theorem said_of_echoes (exchanged : Exchanged (echoes client sequence failed payloads) xs d) :
    xs.map Prod.fst = (payloads.take xs.length).map fun p => (Request.echo p).wire := by
  induction payloads generalizing sequence failed xs d with
  | nil =>
      obtain ⟨rfl, -⟩ := exchanged_done_iff.mp exchanged
      rfl
  | cons p rest ih =>
      cases echoing_of_exchanged exchanged with
      | unasked | broughtDown | lost => rfl
      | echoed later | wrong _ _ later => simp [ih later]

/-- **A client counts the payloads that did not come back**, also when it loses its connection
before it has asked for them all.  It is never brought down by its counting. -/
theorem failed_of_echoes (place : sequence + payloads.length = requestsPerClient)
    (before : failed ≤ sequence)
    (exchanged : Exchanged (echoes client sequence failed payloads) xs (.done f)) :
    f.failed = some (failed + unechoed payloads (xs.map Prod.snd)) := by
  induction payloads generalizing sequence failed xs f with
  | nil =>
      obtain ⟨-, ends⟩ := exchanged_done_iff.mp exchanged
      cases ends
      rfl
  | cons p rest ih =>
      have next : sequence + 1 + rest.length = requestsPerClient := by
        rw [← place, List.length_cons]
        omega
      have few : failed < requestsPerClient := by omega
      generalize ended : Client.Dialogue.done f = d at exchanged
      cases echoing_of_exchanged exchanged with
      | unasked => cases ended
      | @echoed xs _ later =>
          subst ended
          rw [ih next (by omega) later, List.map_cons, unechoed_cons, if_pos rfl, Nat.add_zero]
      | @wrong text n xs d other counted later =>
          obtain rfl : failed + 1 = n := Option.some.inj ((sum?_one few).symm.trans counted)
          obtain ⟨g, rfl, rfl⟩ := Client.Dialogue.bind_eq_done ended.symm
          rw [ih next (by omega) later, List.map_cons, unechoed_cons, if_neg (by simpa using other)]
          congr 1
          omega
      | broughtDown _ uncounted => cases (sum?_one few).symm.trans uncounted
      | @lost r records lost =>
          cases ended
          have left : requestsPerClient - sequence = rest.length + 1 := by omega
          rw [failedAtLoss_eq before (by omega), left, List.map_singleton, unechoed_cons,
            if_neg (lost p), unechoed_unanswered]

/-! ## Whose payload it is -/

/-- The characters of a number are digits. -/
theorem dash_not_mem_toString (n : Nat) : '-' ∉ (toString n).toList := by
  rw [Nat.toString_eq_ofList_toDigits, String.toList_ofList]
  intro here
  exact absurd (Nat.isDigit_of_mem_toDigits (by decide) (by decide) here) (by decide)

theorem toString_inj {m n : Nat} (same : (toString m).toList = (toString n).toList) : m = n := by
  have read (k : Nat) : Nat.ofDigitChars 10 (toString k).toList 0 = k := by
    rw [Nat.toString_eq_ofList_toDigits, String.toList_ofList,
      Nat.ofDigitChars_toDigits (by decide) (by decide)]
  rw [← read m, same, read n]

/-- What stands before the first dash, and what stands behind it, can be told from the whole. -/
theorem split_at_dash {as bs cs ds : List Char} (first : '-' ∉ as) (second : '-' ∉ bs)
    (same : as ++ '-' :: cs = bs ++ '-' :: ds) : as = bs ∧ cs = ds := by
  induction as generalizing bs with
  | nil =>
      cases bs with
      | nil => exact ⟨rfl, (List.cons.inj same).2⟩
      | cons b bs => exact absurd ((List.cons.inj same).1 ▸ List.mem_cons_self) second
  | cons a as ih =>
      cases bs with
      | nil => exact absurd ((List.cons.inj same).1 ▸ List.mem_cons_self) first
      | cons b bs =>
          obtain ⟨rfl, rest⟩ := List.cons.inj same
          obtain ⟨rfl, behind⟩ := ih (mt (List.mem_cons_of_mem a) first)
            (mt (List.mem_cons_of_mem a) second) rest
          exact ⟨rfl, behind⟩

/-- **No two requests have the same payload**, whatever the noise is. -/
theorem payload_inj {c c' n n' : Nat} {a a' : UInt64} (same : payload c n a = payload c' n' a') :
    c = c' ∧ n = n' := by
  have dash : "-".toList = ['-'] := rfl
  have texts := congrArg String.toList same
  simp only [payload, String.toList_append, List.append_assoc, List.append_cancel_left_eq, dash,
    List.singleton_append] at texts
  -- up to the first dash stands the client's number, and up to the second the request's
  obtain ⟨client, texts⟩ :=
    split_at_dash (dash_not_mem_toString c) (dash_not_mem_toString c') texts
  obtain ⟨sequence, -⟩ :=
    split_at_dash (dash_not_mem_toString n) (dash_not_mem_toString n') texts
  exact ⟨toString_inj client, toString_inj sequence⟩

end LineService.Trial
