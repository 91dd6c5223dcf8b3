import LineService.Proofs.Line.Framing
import LineService.Request

/-!
# Requests and the lines that ask for them

A text without terminators asks for at most one request, and the request is written as that text:
`Request.ofText` and `Request.wire` are inverse to each other (`ofText_wire`, `wire_ofText`),
apart from the texts that ask for nothing.

A line is trimmed before it is read.  What is written for a request ends in a letter, a space or
the end of a message, so trimming changes nothing but a message that ends in terminators
(`trim_wire`).  Hence exactly the requests with such a message are not read back as they were
(`wire_form_inverse`), and terminators at the end of a line make no difference to what it asks
for.
-/

set_option autoImplicit false

namespace LineService

namespace Request

/-! ## Texts without terminators -/

/-- What is written for a request asks for it. -/
theorem ofText_wire (r : Request) : ofText r.wire = r := by
  cases r with
  | echo message =>
      have other {word : String} (first : word.toList.head? ≠ some 'E') :
          "ECHO " ++ message ≠ word := by
        rintro rfl
        exact first (by simp)
      rw [wire, ofText, if_neg (other (by decide)), if_neg (other (by decide)),
        if_neg (other (by decide)), if_neg (other (by decide)), Text.after?_append]
  | ping | time | stats | quit | unknown => rfl

/-- A text that asks for a request is what is written for it. -/
theorem wire_ofText {text : String} (known : ofText text ≠ .unknown) :
    (ofText text).wire = text := by
  unfold ofText at known ⊢
  split
  case isTrue same => exact same.symm
  split
  case isTrue same => exact same.symm
  split
  case isTrue same => exact same.symm
  split
  case isTrue same => exact same.symm
  split
  case h_1 message after =>
      rw [wire, ← String.toList_inj, String.toList_append]
      exact (Text.toList_of_after? after).symm
  case h_2 other => simp_all

/-- A request other than none is asked for by one text. -/
theorem ofText_eq_iff {text : String} {r : Request} (known : r ≠ .unknown) :
    ofText text = r ↔ text = r.wire := by
  constructor
  · rintro rfl
    exact (wire_ofText known).symm
  · rintro rfl
    exact ofText_wire r

/-! ## Lines -/

/-- What is left of a request when its line is trimmed. -/
def trimmed : Request → Request
  | .echo message => .echo (Line.trim message)
  | r => r

/-- Only a message can end in terminators. -/
theorem trim_wire (r : Request) : Line.trim r.wire = r.trimmed.wire := by
  cases r with
  | echo message =>
      have space : ∀ c, "ECHO ".toList.getLast? = some c → Line.isTerminator c = false := by
        rintro c ⟨⟩
        rfl
      exact Line.trim_append space message
  | ping | time | stats | quit | unknown => rfl

theorem ofLine_wire (r : Request) : ofLine r.wire = r.trimmed := by
  rw [ofLine, trim_wire, ofText_wire]

theorem trimmed_eq_self_iff {r : Request} : r.trimmed = r ↔ ∀ message, r = .echo message →
    message.toList.getLast? ≠ some '\r' ∧ message.toList.getLast? ≠ some '\n' := by
  simp only [← Line.trim_eq_self_iff]
  cases r with
  | echo message => simp [trimmed]
  | ping | time | stats | quit | unknown => simp [trimmed]

/-- Two lines are trimmed to the same exactly if they differ in terminators at their ends only. -/
theorem trim_eq_trim_iff {line other : String} : Line.trim line = Line.trim other ↔
    ∃ text back back', line = text ++ back ∧ other = text ++ back' ∧
      (∀ c ∈ back.toList, c = '\r' ∨ c = '\n') ∧ ∀ c ∈ back'.toList, c = '\r' ∨ c = '\n' := by
  constructor
  · intro same
    obtain ⟨-, back, split, ends⟩ := Line.trim_eq_iff.mp (Eq.refl (Line.trim line))
    obtain ⟨-, back', split', ends'⟩ := Line.trim_eq_iff.mp same.symm
    exact ⟨_, _, _, split, split', ends, ends'⟩
  · rintro ⟨text, back, back', rfl, rfl, ends, ends'⟩
    rw [Line.trim_append_of_all _ ends, Line.trim_append_of_all _ ends']

/-- **Requests and the lines that ask for them are inverse to each other, up to terminators at the
end of a line.**

* What is written for a request is read as that request, but a message loses the terminators at
  its end; so exactly the messages that end in none are read back as they were.
* The line that is written for what a line asks for is that line without the terminators at its
  end, unless it asks for nothing.
* So two lines that ask for something ask for the same exactly if they are the same up to
  terminators at their ends.
* Terminators at the end of any line change neither what it asks for nor the answer. -/
theorem wire_form_inverse :
    (∀ message, ofLine (wire (.echo message)) = .echo (Line.trim message)) ∧
    (∀ r : Request, ofLine r.wire = r ↔ ∀ message, r = .echo message →
      message.toList.getLast? ≠ some '\r' ∧ message.toList.getLast? ≠ some '\n') ∧
    (∀ line, ofLine line ≠ .unknown → (ofLine line).wire = Line.trim line) ∧
    (∀ line other, ofLine line ≠ .unknown → ofLine other ≠ .unknown →
      (ofLine line = ofLine other ↔ ∃ text back back', line = text ++ back ∧
        other = text ++ back' ∧ (∀ c ∈ back.toList, c = '\r' ∨ c = '\n') ∧
        ∀ c ∈ back'.toList, c = '\r' ∨ c = '\n')) ∧
    ∀ line back, (∀ c ∈ back.toList, c = '\r' ∨ c = '\n') →
      ofLine (line ++ back) = ofLine line ∧ ∀ now active,
        (ofLine (line ++ back)).respond now active = (ofLine line).respond now active := by
  refine ⟨fun message => ofLine_wire (.echo message), fun r => ?_, fun line known => ?_,
    fun line other known known' => ?_, fun line back ends => ?_⟩
  · rw [ofLine_wire, trimmed_eq_self_iff]
  · exact wire_ofText known
  · rw [← trim_eq_trim_iff]
    constructor
    · intro same
      rw [← wire_ofText known, ← wire_ofText known']
      exact congrArg wire same
    · intro same
      rw [ofLine, ofLine, same]
  · have same : ofLine (line ++ back) = ofLine line := by
      rw [ofLine, Line.trim_append_of_all line ends, ofLine]
    exact ⟨same, fun now active => by rw [same]⟩

end Request

/-! ## The number of clients -/

/-- The answer to `STATS` is a number in decimal digits behind fixed words. -/
theorem Response.toList_activeClients (active : Nat) : (activeClients active).toList =
    "Active clients: ".toList ++ Nat.toDigits 10 active := by
  rw [activeClients, statsOpening, String.toList_append, Nat.toString_eq_ofList_toDigits]
  exact congrArg ("Active clients: ".toList ++ ·) String.toList_ofList

end LineService
