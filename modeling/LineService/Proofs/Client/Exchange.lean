import LineService.Proofs.Client.Playing

/-!
# A list of commands over a connection

`Exchanging` says how far a client has come with its commands: it has written the first of them,
one after the other, has a reply to each but the last one at most, and keeps the replies that are
texts.  Whatever it is connected to, it stops at the first reply that is none
(`exchanging_of_held`).

Connected to a session it stays in step with it, line by line (`InStep`).  A command may contain
line feeds, or be too long for a line; so the lines that the session reads need not be the
commands, and the reply to a command is the answer to whatever line has its place.  Where the
session answers no line in that place, the client finds the stream at its end and stops.  Where the
commands are lines themselves they are answered one by one.  `exchange_in_step` says this of every
conversation, and of what the program does.
-/

set_option autoImplicit false

namespace LineService.Client

variable {α β γ : Type}

/-! ## Dialogues -/

namespace Dialogue

theorem bind_assoc (d : Dialogue α) (f : α → Dialogue β) (g : β → Dialogue γ) :
    (d.bind f).bind g = d.bind fun a => (f a).bind g := by
  induction d with
  | done a => rfl
  | ask command go ih =>
      simp only [bind]
      congr 1
      funext r
      exact ih r

theorem bind_done (d : Dialogue α) : d.bind .done = d := by
  induction d with
  | done a => rfl
  | ask command go ih =>
      simp only [bind]
      congr 1
      funext r
      exact ih r

end Dialogue

/-- The dialogue `d` when `texts` have been replied before it. -/
def after (texts : List String) (d : Dialogue (List String × Ending)) :
    Dialogue (List String × Ending) :=
  d.bind fun r => .done (texts ++ r.1, r.2)

theorem after_nil (d : Dialogue (List String × Ending)) : after [] d = d := d.bind_done

/-- What a client that has these replies does with the reply to its next command. -/
def goOn (texts rest : List String) : Reply → Dialogue (List String × Ending)
  | .line text => after (texts ++ [text]) (exchange rest)
  | .closed => .done (texts, .hungUp)
  | .trouble t => .done (texts, .failed t)

theorem after_exchange_cons (texts : List String) (command : String) (rest : List String) :
    after texts (exchange (command :: rest)) = .ask command (goOn texts rest) := by
  rw [exchange, after, Dialogue.bind]
  congr 1
  funext r
  cases r with
  | line text =>
      change ((exchange rest).bind _).bind _ = _
      rw [Dialogue.bind_assoc, goOn, after]
      congr 1
      funext r
      change Dialogue.done _ = _
      simp
  | closed | trouble => simp [goOn, Dialogue.bind]

/-! ## How far a client has come -/

/-- A client has spoken these commands and heard these replies in its dialogue. -/
inductive Held (d : Dialogue α) : List String → List Reply → Stand α → Prop where
  | start : Held d [] [] (.ready d)
  | spoke {commands : List String} {replies : List Reply} {command : String}
      {go : Reply → Dialogue α} (held : Held d commands replies (.ready (.ask command go))) :
      Held d (commands ++ [command]) replies (.waiting go)
  | heard {commands : List String} {replies : List Reply} {go : Reply → Dialogue α} (r : Reply)
      (held : Held d commands replies (.waiting go)) :
      Held d commands (replies ++ [r]) (.ready (go r))

/-- How far a client has come with its commands. -/
inductive Exchanging (commands : List String) :
    List String → List Reply → Stand (List String × Ending) → Prop where
  | ready {texts said rest : List String} (all : commands = said ++ rest)
      (even : said.length = texts.length) :
      Exchanging commands said (texts.map .line) (.ready (after texts (exchange rest)))
  | waiting {texts said rest : List String} {command : String}
      (all : commands = said ++ command :: rest) (even : said.length = texts.length) :
      Exchanging commands (said ++ [command]) (texts.map .line) (.waiting (goOn texts rest))
  /-- The last reply was no text. -/
  | stopped {texts said rest : List String} {command : String} {r : Reply}
      (all : commands = said ++ command :: rest) (even : said.length = texts.length)
      (last : ∀ text, r ≠ .line text) :
      Exchanging commands (said ++ [command]) (texts.map .line ++ [r]) (.ready (goOn texts rest r))

theorem exchanging_of_held {commands said : List String} {replies : List Reply}
    {stand : Stand (List String × Ending)} (held : Held (exchange commands) said replies stand) :
    Exchanging commands said replies stand := by
  induction held with
  | start =>
      have first : Exchanging commands [] [] (.ready (after [] (exchange commands))) :=
        @Exchanging.ready commands [] [] commands rfl rfl
      rwa [after_nil] at first
  | @spoke said replies command go held ih =>
      generalize ready : Stand.ready (.ask command go) = stand at ih
      cases ih with
      | @ready texts said rest all even =>
          cases rest with
          | nil => cases ready
          | cons next rest =>
              rw [after_exchange_cons] at ready
              cases ready
              exact .waiting all even
      | waiting => cases ready
      | @stopped _ _ _ _ r _ _ last =>
          cases r with
          | line text => exact absurd rfl (last text)
          | closed | trouble => cases ready
  | @heard said replies go r held ih =>
      generalize waiting : Stand.waiting go = stand at ih
      cases ih with
      | ready | stopped => cases waiting
      | @waiting texts said rest command all even =>
          cases waiting
          cases r with
          | line text =>
              have next : Exchanging commands (said ++ [command]) ((texts ++ [text]).map .line)
                  (.ready (after (texts ++ [text]) (exchange rest))) :=
                .ready (by simp [all]) (by simp [even])
              simpa [goOn] using next
          | closed | trouble => exact .stopped all even nofun

theorem Exchanging.said {commands said : List String} {replies : List Reply}
    {stand : Stand (List String × Ending)} (exchanging : Exchanging commands said replies stand) :
    said <+: commands := by
  cases exchanging with
  | ready all => exact all ▸ List.prefix_append _ _
  | waiting all | stopped all => exact ⟨_, by rw [all, List.append_assoc]; rfl⟩

/-- A client that has met the end of the stream has stopped there. -/
theorem Exchanging.stopped_of_closed {commands said : List String} {replies : List Reply}
    {stand : Stand (List String × Ending)} (exchanging : Exchanging commands said replies stand)
    {i : Nat} (here : replies[i]? = some .closed) :
    said.length = i + 1 ∧ ∃ texts, replies = texts.map .line ++ [.closed] ∧
      stand = .ready (.done (texts, .hungUp)) := by
  cases exchanging with
  | ready | waiting => simp [List.getElem?_map] at here
  | @stopped texts said rest command r all even last =>
      by_cases earlier : i < texts.length
      · rw [List.getElem?_append_left (by simpa using earlier)] at here
        simp [List.getElem?_map] at here
      · rw [List.getElem?_append_right (by simpa using earlier), List.length_map,
          List.getElem?_singleton] at here
        split at here
        · rename_i first
          cases here
          refine ⟨?_, texts, rfl, rfl⟩
          rw [List.length_append, even, List.length_singleton]
          omega
        · cases here

/-- How a client ends that meets no trouble. -/
theorem Exchanging.finished {commands said : List String} {replies : List Reply}
    {r : List String × Ending} (exchanging : Exchanging commands said replies (.ready (.done r)))
    (sound : ∀ t, .trouble t ∉ replies) :
    r.2 = .answered ∧ said = commands ∧ replies = r.1.map .line ∨
      r.2 = .hungUp ∧ replies = r.1.map .line ++ [.closed] := by
  generalize stand : Stand.ready (.done r) = last at exchanging
  cases exchanging with
  | @ready texts said rest all even =>
      cases rest with
      | nil =>
          cases stand
          exact .inl ⟨rfl, by simp [all], by simp⟩
      | cons command rest =>
          rw [after_exchange_cons] at stand
          cases stand
  | waiting => cases stand
  | @stopped texts said rest command reply all even last =>
      cases reply with
      | line text => exact absurd rfl (last text)
      | closed =>
          cases stand
          exact .inr ⟨rfl, rfl⟩
      | trouble t => exact absurd (by simp) (sound t)

namespace Conversation

variable {peer : String} {d : Dialogue α} {commands : List String}

theorem held_of_reaches {c : Conversation α} {es : List Event}
    (reached : Machine.Reaches step (start peer d) c es) :
    Held d (spoken es) (replies es) c.stand := by
  induction reached with
  | refl => exact .start
  | tail _ taken ih =>
      cases turn_of_step taken with
      | spoke ready =>
          rw [ready] at ih
          simpa using ih.spoke
      | read waiting =>
          rw [waiting] at ih
          simpa using ih.heard (.ofReading _)
      | carried | served | brought | closed => simpa using ih

/-! ## In step with a session -/

variable {c : Conversation (List String × Ending)} {es : List Event}

/-- What a client that sends `commands` and a session have come to. -/
structure InStep (commands : List String) (c : Conversation (List String × Ending))
    (es : List Event) : Prop where
  /-- The commands are spoken in their order, each once the one before it has got its reply. -/
  said : spoken es <+: commands
  paced : (spoken es).length = (replies es).length + c.stand.due
  /-- The reply in a place answers the line in that place of what had been written by then, if the
  session answers that line. -/
  answered : ∀ i line, i < (replies es).length →
    (Session.agenda (Line.all (wire (commands.take (i + 1)))))[i]? = some line →
    ∃ q, (Session.asked (course es))[i]? = some q ∧ q.line = line ∧
      (replies es)[i]? = some (.line q.answer)
  /-- If the session does not answer it, the client finds the stream at its end, keeps the replies
  it has, and says nothing more. -/
  stopped : ∀ i, i < (replies es).length →
    (Session.agenda (Line.all (wire (commands.take (i + 1)))))[i]? = none →
    (spoken es).length = i + 1 ∧ ∃ texts, replies es = texts.map .line ++ [.closed] ∧
      c.stand = .ready (.done (texts, .hungUp))
  /-- At its end the client has a reply to every command, or was hung up on. -/
  finished : ∀ r, c.stand = .ready (.done r) →
    r.2 = .answered ∧ spoken es = commands ∧ replies es = r.1.map .line ∨
    r.2 = .hungUp ∧ replies es = r.1.map .line ++ [.closed]
  /-- Commands that are lines are answered one by one, up to the first that asks to quit, -/
  oneByOne : (∀ k ∈ commands, '\n' ∉ k.toList ∧ (Utf8.encode k).length < Line.limit) →
    ∀ i command, i < (replies es).length → commands[i]? = some command →
    (∀ j, j < i → ∀ k, commands[j]? = some k → Line.trim k ≠ "QUIT") →
    ∃ q, (Session.asked (course es))[i]? = some q ∧ (replies es)[i]? =
      some (.line ((Request.ofLine command).respond q.now q.active).text)
  /-- and what follows that one meets the end of the stream. -/
  quit : (∀ k ∈ commands, '\n' ∉ k.toList ∧ (Utf8.encode k).length < Line.limit) →
    ∀ i j k, i < (replies es).length → j < i → commands[j]? = some k → Line.trim k = "QUIT" →
    (replies es)[i]? = some .closed
  /-- The client does not wait for ever, -/
  next : (∀ r, c.stand ≠ .ready (.done r)) → ∃ l, (step c l).isSome
  /-- and comes to its end on every schedule. -/
  ends : Acc Follows c

/-- What is read of commands that are lines. -/
theorem all_wire_take
    (lines : ∀ k ∈ commands, '\n' ∉ k.toList ∧ (Utf8.encode k).length < Line.limit) {i j : Nat}
    {command : String} (here : commands[j]? = some command) (less : j ≤ i) :
    (Line.all (wire (commands.take (i + 1))))[j]? =
      some (.line (Line.trim command) (Line.write command).length) := by
  rw [wire, Line.all_write, List.getElem?_map, List.getElem?_take_of_lt (Nat.lt_succ_of_le less),
    here]
  · rfl
  · exact fun k early => (lines k (List.mem_of_mem_take early)).1
  · exact fun k early => Line.fits_iff.mpr (lines k (List.mem_of_mem_take early)).2

/-- **A client and its session are in step** at every moment of every conversation. -/
theorem inStep_of_reaches (reached : Machine.Reaches step (start peer (exchange commands)) c es)
    (plain : ∀ q ∈ Session.asked (course es), q.Plain) : InStep commands c es := by
  have exchanging := exchanging_of_held (held_of_reaches reached)
  have session := course_of_reaches reached
  obtain ⟨texts, rest, ends, delivered⟩ := delivered_of_reaches reached plain
  have said := exchanging.said
  have due := delivered.due
  -- what the client has written by a reply is what it has written of all its commands
  have reply {i : Nat} (less : i < (replies es).length) :
      (∃ q, (Session.agenda (Line.all (wire (commands.take (i + 1)))))[i]? = some q.line ∧
        (Session.asked (course es))[i]? = some q ∧ (replies es)[i]? = some (.line q.answer)) ∨
      (Session.agenda (Line.all (wire (commands.take (i + 1)))))[i]? = none ∧
        (replies es)[i]? = some .closed := by
    have same : commands.take (i + 1) = (spoken es).take (i + 1) := by
      rw [List.prefix_iff_eq_take.mp said, List.take_take, Nat.min_eq_left (by omega)]
    rw [same]
    exact delivered.reply session less
  refine ⟨said, due, ?answered, ?stopped, ?finished, ?oneByOne, ?quit, ?next, acc_follows c⟩
  case answered =>
    intro i line less answers
    rcases reply less with ⟨q, asks, asked, told⟩ | ⟨nothing, -⟩
    · exact ⟨q, asked, Option.some.inj (asks.symm.trans answers), told⟩
    · cases answers.symm.trans nothing
  case stopped =>
    intro i less nothing
    rcases reply less with ⟨q, asks, -⟩ | ⟨-, told⟩
    · cases asks.symm.trans nothing
    · exact exchanging.stopped_of_closed told
  case finished =>
    intro r done
    rw [done] at exchanging
    refine exchanging.finished fun t found => ?_
    rw [delivered.heard, List.mem_append] at found
    rcases found with text | closed
    · simp at text
    · cases List.eq_of_mem_replicate closed
  case oneByOne =>
    intro lines i command less here going
    have answers : (Session.agenda (Line.all (wire (commands.take (i + 1)))))[i]? =
        some (Line.trim command) := by
      refine Session.getElem?_agenda (all_wire_take lines here (Nat.le_refl i)) fun j before => ?_
      obtain ⟨k, there⟩ : ∃ k, commands[j]? = some k :=
        ⟨_, List.getElem?_eq_getElem (Nat.lt_trans before (List.getElem?_eq_some_iff.mp here).1)⟩
      refine ⟨_, _, all_wire_take lines there (Nat.le_of_lt before), ?_⟩
      rw [Line.trim_trim]
      exact going j before k there
    rcases reply less with ⟨q, asks, asked, told⟩ | ⟨nothing, -⟩
    · refine ⟨q, asked, told.trans ?_⟩
      rw [Session.Question.answer, Option.some.inj (asks.symm.trans answers), Request.ofLine,
        Line.trim_trim, Request.ofLine]
    · cases answers.symm.trans nothing
  case quit =>
    intro lines i j k less before here quits
    have nothing := Session.getElem?_agenda_of_quit
      (all_wire_take lines here (Nat.le_of_lt before)) (by rwa [Line.trim_trim]) before
    rcases reply less with ⟨q, asks, -⟩ | ⟨-, told⟩
    · cases asks.symm.trans nothing
    · exact told
  case next => exact delivered.exists_step session

/-- **Client and server stay in step**, whatever the commands are, however the bytes travel and
whenever the session takes its turns; and what the program does with the commands is such a
conversation, which comes to its end. -/
theorem exchange_in_step (peer : String) (commands : List String) :
    (∀ {c : Conversation (List String × Ending)} {es : List Event},
      Machine.Reaches step (start peer (exchange commands)) c es →
      (∀ q ∈ Session.asked (course es), q.Plain) → InStep commands c es) ∧
    ∀ (now : String) (others : Nat), Line.Clean now → Line.Fits now → others + 1 < UInt64.size →
      ∃ k r c es,
        (exchange commands).run (send (Server.hear now)) (.ofFar (Server.meet peer others)) =
          some (k, r) ∧
        Machine.Reaches step (start peer (exchange commands)) c es ∧ c.stand = .ready (.done r) ∧
        (∀ q ∈ Session.asked (course es), q.now = now ∧ q.active = others + 1) ∧
        InStep commands c es := by
  refine ⟨inStep_of_reaches, fun now others clean fits word => ?_⟩
  obtain ⟨k, r, c, es, runs, reached, done, asked⟩ :=
    exists_conversation peer (exchange commands) ⟨clean, fits⟩ word
  refine ⟨k, r, c, es, runs, reached, done, asked, inStep_of_reaches reached fun q here => ?_⟩
  obtain ⟨time, count⟩ := asked q here
  exact ⟨time ▸ clean, time ▸ fits, count ▸ word⟩

/-- A command of two lines puts the replies out of step with the commands, not with the lines: at
first on a connection on which the second reply is on its way before the first has been read, and
then as the program plays it, to which `TIME` is replied what `QUIT` has asked for. -/
theorem exchange_in_step_two_lines :
    (∃ (c : Conversation (List String × Ending)) (es : List Event),
      Machine.Reaches step (start "a" (exchange ["ECHO a\nPING", "QUIT", "TIME"])) c es ∧
      (∀ q ∈ Session.asked (course es), q.Plain) ∧
      replies es = [.line "a", .line "PONG"] ∧
      InStep ["ECHO a\nPING", "QUIT", "TIME"] c es) ∧
    Line.Clean "noon" ∧ Line.Fits "noon" ∧ ∃ k c es,
      (exchange ["ECHO a\nPING", "QUIT", "TIME"]).run (send (Server.hear "noon"))
        (.ofFar (Server.meet "a" 0)) = some (k, (["a", "PONG", "Goodbye"], .answered)) ∧
      InStep ["ECHO a\nPING", "QUIT", "TIME"] c es := by
  have reached : Machine.Reaches step
      (start "a" (exchange ["ECHO a\nPING", "QUIT", "TIME"])) _ _ := Machine.reaches_of_run
    [.turn "noon" 0, .speak, .carry 5, .turn "noon" 1, .carry 9, .turn "noon" 1, .turn "noon" 1,
      .turn "noon" 2, .bring 1, .turn "noon" 2, .turn "noon" 2, .turn "noon" 2, .bring 4, .read,
      .speak, .carry 5, .bring 3, .read] rfl
  have clean : Line.Clean "noon" := by decide
  have fits : Line.Fits "noon" := by decide
  obtain ⟨k, r, c, es, runs, -, -, -, inStep⟩ :=
    (exchange_in_step "a" ["ECHO a\nPING", "QUIT", "TIME"]).2 "noon" 0 clean fits (by decide)
  have result : ((exchange ["ECHO a\nPING", "QUIT", "TIME"]).run (send (Server.hear "noon"))
      (.ofFar (Server.meet "a" 0))).map Prod.snd = some (["a", "PONG", "Goodbye"], .answered) := rfl
  rw [runs, Option.map_some, Option.some.injEq] at result
  exact ⟨⟨_, _, reached, by decide, rfl, (exchange_in_step "a" _).1 reached (by decide)⟩, clean,
    fits, k, c, es, result ▸ runs, inStep⟩

end Conversation

end LineService.Client
