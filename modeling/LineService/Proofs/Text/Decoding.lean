import LineService.Text.Utf8
import Mathlib.Algebra.GroupWithZero.Nat

/-!
# What decoding makes of bytes

Whatever the bytes are, decoding takes them one after the other and keeps count: while `k` bytes
of a character have been read, what may still follow makes it a character of a known number of
bytes (`Begun`, `Takes`).  Three facts about all byte strings are read off this.  A character of
ASCII stands for its own byte (`Decodes.byte_of_ascii`), decoding starts anew at every such byte
(`pieces_append_ascii`), and a text is longer than the bytes it was decoded from only by what
replaces the broken ones (`length_encode_decodeLossy_le`).

The bytes of a text are decoded to the text (`pieces_encode_append`), so they have no flaws.
-/

set_option autoImplicit false

namespace LineService.Utf8

variable {b : UInt8} {p : Partial} {k : Nat} {st : Option Partial}

/-! ## A character under way -/

/-- The least number that the character under way may turn out to have. -/
def Partial.least (p : Partial) : Nat := (p.bits * 64 + (p.low.toNat - 0x80)) * 64 ^ p.owed

/-- A number that is greater than all which the character under way may turn out to have. -/
def Partial.bound (p : Partial) : Nat := (p.bits * 64 + (p.high.toNat - 0x80) + 1) * 64 ^ p.owed

/-- The numbers from `least` on and below `bound` are those of characters of `n` bytes. -/
inductive Spans : (n least bound : Nat) → Prop where
  | two {least bound : Nat} : 0x80 ≤ least → bound ≤ 0x800 → Spans 2 least bound
  | belowSurrogates {least bound : Nat} : 0x800 ≤ least → bound ≤ 0xD800 → Spans 3 least bound
  | aboveSurrogates {least bound : Nat} : 0xE000 ≤ least → bound ≤ 0x10000 → Spans 3 least bound
  | four {least bound : Nat} : 0x10000 ≤ least → bound ≤ 0x110000 → Spans 4 least bound

theorem Spans.mono {n least bound least' bound' : Nat} (spans : Spans n least bound)
    (above : least ≤ least') (below : bound' ≤ bound) : Spans n least' bound' := by
  cases spans with
  | two low high => exact .two (Nat.le_trans low above) (Nat.le_trans below high)
  | belowSurrogates low high =>
      exact .belowSurrogates (Nat.le_trans low above) (Nat.le_trans below high)
  | aboveSurrogates low high =>
      exact .aboveSurrogates (Nat.le_trans low above) (Nat.le_trans below high)
  | four low high => exact .four (Nat.le_trans low above) (Nat.le_trans below high)

/-- `k` bytes of a character have been read, and whatever may follow makes it one. -/
structure Begun (k : Nat) (p : Partial) : Prop where
  read : 0 < k
  low : 0x80 ≤ p.low.toNat
  high : p.high.toNat ≤ 0xBF
  spans : Spans (k + p.owed + 1) p.least p.bound

theorem begun_of_lead (lead : lead? b = some p) : Begun 1 p := by
  simp only [lead?, UInt8.lt_iff_toNat_lt, ← UInt8.toNat_inj, UInt8.reduceToNat] at lead
  by_cases below : b.toNat < 194
  · rw [if_pos below] at lead
    exact absurd lead nofun
  rw [if_neg below] at lead
  by_cases two : b.toNat < 224
  · rw [if_pos two, Option.some.injEq] at lead
    subst lead
    refine ⟨Nat.one_pos, Nat.le_refl _, Nat.le_refl _, .two ?_ ?_⟩
    · simp only [Partial.least, UInt8.reduceToNat]
      omega
    · simp only [Partial.bound, UInt8.reduceToNat]
      omega
  rw [if_neg two] at lead
  by_cases three : b.toNat < 240
  · rw [if_pos three, Option.some.injEq] at lead
    subst lead
    by_cases overlong : b.toNat = 224
    · simp only [overlong]
      refine ⟨Nat.one_pos, ?_, Nat.le_refl _, .belowSurrogates ?_ ?_⟩
      · simp
      · simp [Partial.least]
      · simp [Partial.bound]
    · by_cases surrogates : b.toNat = 237
      · simp only [surrogates]
        refine ⟨Nat.one_pos, Nat.le_refl _, ?_, .belowSurrogates ?_ ?_⟩
        · simp
        · simp [Partial.least]
        · simp [Partial.bound]
      · rw [if_neg overlong, if_neg surrogates]
        refine ⟨Nat.one_pos, Nat.le_refl _, Nat.le_refl _, ?_⟩
        simp only [Partial.least, Partial.bound, UInt8.reduceToNat]
        by_cases below : b.toNat < 237
        · exact .belowSurrogates (by omega) (by omega)
        · exact .aboveSurrogates (by omega) (by omega)
  rw [if_neg three] at lead
  by_cases four : b.toNat < 245
  · rw [if_pos four, Option.some.injEq] at lead
    subst lead
    by_cases overlong : b.toNat = 240
    · simp only [overlong]
      refine ⟨Nat.one_pos, ?_, Nat.le_refl _, .four ?_ ?_⟩
      · simp
      · simp [Partial.least]
      · simp [Partial.bound]
    · by_cases last : b.toNat = 244
      · simp only [last]
        refine ⟨Nat.one_pos, Nat.le_refl _, ?_, .four ?_ ?_⟩
        · simp
        · simp [Partial.least]
        · simp [Partial.bound]
      · rw [if_neg overlong, if_neg last]
        refine ⟨Nat.one_pos, Nat.le_refl _, Nat.le_refl _, .four ?_ ?_⟩
        · simp only [Partial.least, UInt8.reduceToNat]
          omega
        · simp only [Partial.bound, UInt8.reduceToNat]
          omega
  · rw [if_neg four] at lead
    exact absurd lead nofun

/-- A byte that continues the character under way and does not end it. -/
theorem Begun.next (begun : Begun k p) {n : Nat} (owed : p.owed = n + 1) (low : p.low ≤ b)
    (high : b ≤ p.high) : Begun (k + 1) ⟨p.bits * 64 + (b.toNat - 0x80), n, 0x80, 0xBF⟩ := by
  obtain ⟨read, above, below, spans⟩ := begun
  rw [UInt8.le_iff_toNat_le] at low high
  refine ⟨Nat.succ_pos k, Nat.le_refl _, Nat.le_refl _, ?_⟩
  simp only [Partial.least, Partial.bound, owed, Nat.pow_succ'] at spans
  simp only [Partial.least, Partial.bound, UInt8.reduceToNat]
  rw [show k + 1 + n + 1 = k + (n + 1) + 1 by omega]
  refine spans.mono ?_ ?_
  · rw [← Nat.mul_assoc]
    exact Nat.mul_le_mul_right _ (by omega)
  · rw [← Nat.mul_assoc]
    exact Nat.mul_le_mul_right _ (by omega)

/-- The number of a character says how many bytes it takes. -/
theorem utf8Size_eq (c : Char) : c.utf8Size =
    if c.toNat ≤ 0x7F then 1 else if c.toNat ≤ 0x7FF then 2 else if c.toNat ≤ 0xFFFF then 3
    else 4 := by
  simp only [Char.utf8Size, UInt32.le_iff_toNat_le]
  rfl

theorem toNat_ofNat {v : Nat} (valid : v.isValidChar) : (Char.ofNat v).toNat = v := by
  rw [Char.ofNat, dif_pos valid]
  rfl

/-- The numbers that are spanned are those of characters, of as many bytes. -/
theorem Spans.char {n least bound v : Nat} (spans : Spans n least bound) (above : least ≤ v)
    (below : v < bound) : 0x80 ≤ (Char.ofNat v).toNat ∧ (Char.ofNat v).utf8Size = n := by
  have valid : v.isValidChar := by
    cases spans with
    | two | belowSurrogates => exact .inl (by omega)
    | aboveSurrogates | four => exact .inr (by omega)
  rw [utf8Size_eq, toNat_ofNat valid]
  cases spans with
  | two => exact ⟨by omega, by rw [if_neg (by omega), if_pos (by omega)]⟩
  | belowSurrogates | aboveSurrogates =>
      exact ⟨by omega, by rw [if_neg (by omega), if_neg (by omega), if_pos (by omega)]⟩
  | four => exact ⟨by omega, by rw [if_neg (by omega), if_neg (by omega), if_neg (by omega)]⟩

/-- A byte that ends the character under way. -/
theorem Begun.last (begun : Begun k p) (owed : p.owed = 0) (low : p.low ≤ b) (high : b ≤ p.high) :
    0x80 ≤ (Char.ofNat (p.bits * 64 + (b.toNat - 0x80))).toNat ∧
      (Char.ofNat (p.bits * 64 + (b.toNat - 0x80))).utf8Size = k + 1 := by
  obtain ⟨read, above, below, spans⟩ := begun
  rw [UInt8.le_iff_toNat_le] at low high
  simp only [Partial.least, Partial.bound, owed, Nat.pow_zero, Nat.mul_one] at spans
  exact spans.char (by omega) (by omega)

/-- Of the character under way, if there is one, `k` bytes have been read. -/
inductive Underway : Nat → Option Partial → Prop where
  | between : Underway 0 none
  | within {k : Nat} {p : Partial} (begun : Begun k p) : Underway k (some p)

/-! ## What one byte does -/

/-- What a byte comes to where `k` bytes of a character have been read: the pieces, and the number
of bytes read of the character that is then under way. -/
inductive Takes (b : UInt8) : Nat → List Piece → Nat → Prop where
  | ascii (small : b.toNat < 0x80) : Takes b 0 [.scalar (Char.ofNat b.toNat)] 0
  | lead (large : 0x80 ≤ b.toNat) : Takes b 0 [] 1
  | stray (large : 0x80 ≤ b.toNat) : Takes b 0 [.broken] 0
  | next {k : Nat} (large : 0x80 ≤ b.toNat) : Takes b k [] (k + 1)
  | last {k : Nat} {c : Char} (large : 0x80 ≤ b.toNat) (far : 0x80 ≤ c.toNat)
      (size : c.utf8Size = k + 1) : Takes b k [.scalar c] 0
  /-- The character under way is broken, and the byte is looked at afresh. -/
  | afresh {k k' : Nat} {ps : List Piece} (read : 0 < k) (begins : Takes b 0 ps k') :
      Takes b k (.broken :: ps) k'

theorem takes_begin (b : UInt8) : ∃ k, Takes b 0 (begin b).1 k ∧ Underway k (begin b).2 := by
  unfold begin
  split
  · rename_i small
    exact ⟨0, .ascii (UInt8.lt_iff_toNat_lt.mp small), .between⟩
  · rename_i large
    have large : 0x80 ≤ b.toNat := UInt8.le_iff_toNat_le.mp (UInt8.not_lt.mp large)
    split
    · rename_i p lead
      exact ⟨1, .lead large, .within (begun_of_lead lead)⟩
    · exact ⟨0, .stray large, .between⟩

theorem Underway.takes (underway : Underway k st) (b : UInt8) :
    ∃ k', Takes b k (step st b).1 k' ∧ Underway k' (step st b).2 := by
  cases underway with
  | between => exact takes_begin b
  | @within k p begun =>
      simp only [step]
      split
      · rename_i continues
        obtain ⟨low, high⟩ := continues
        have large : 0x80 ≤ b.toNat := Nat.le_trans begun.low (UInt8.le_iff_toNat_le.mp low)
        cases owed : p.owed with
        | zero =>
            obtain ⟨far, size⟩ := begun.last owed low high
            exact ⟨0, .last large far size, .between⟩
        | succ n => exact ⟨k + 1, .next large, .within (begun.next owed low high)⟩
      · obtain ⟨k', begins, underway⟩ := takes_begin b
        exact ⟨k', .afresh begun.read begins, underway⟩

/-- What the bytes from here on come to where `k` bytes of a character have been read. -/
inductive Decodes : Nat → List UInt8 → List Piece → Prop where
  | done : Decodes 0 [] []
  | cutOff {k : Nat} (read : 0 < k) : Decodes k [] [.broken]
  | byte {k k' : Nat} {b : UInt8} {bs : List UInt8} {ps qs : List Piece} (takes : Takes b k ps k')
      (rest : Decodes k' bs qs) : Decodes k (b :: bs) (ps ++ qs)

theorem Underway.decodes (underway : Underway k st) (bytes : List UInt8) :
    Decodes k bytes (piecesFrom st bytes) := by
  induction bytes generalizing k st with
  | nil =>
      cases underway with
      | between => exact .done
      | within begun => exact .cutOff begun.read
  | cons b bs ih =>
      obtain ⟨k', takes, underway⟩ := underway.takes b
      have rest := ih underway
      cases st with
      | none => exact .byte takes rest
      | some p => exact .byte takes rest

/-- **Decoding takes one byte after the other, as `Takes` says.** -/
theorem decodes (bytes : List UInt8) : Decodes 0 bytes (pieces bytes) :=
  Underway.between.decodes bytes

/-! ## Where characters come from -/

variable {bytes : List UInt8} {ps : List Piece} {k' : Nat} {c : Char}

theorem Takes.byte_of_ascii (takes : Takes b k ps k') (found : .scalar c ∈ ps)
    (ascii : c.toNat < 0x80) : b.toNat = c.toNat := by
  induction takes with
  | ascii small =>
      rw [List.mem_singleton, Piece.scalar.injEq] at found
      rw [found, toNat_ofNat (.inl (by omega))]
  | lead | next => cases found
  | stray => simp at found
  | last _ far =>
      rw [List.mem_singleton, Piece.scalar.injEq] at found
      subst found
      omega
  | afresh _ _ ih => exact ih (by simpa using found)

/-- A character of ASCII stands for its own byte, and for no other bytes. -/
theorem Decodes.byte_of_ascii (decodes : Decodes k bytes ps) (found : .scalar c ∈ ps)
    (ascii : c.toNat < 0x80) : UInt8.ofNat c.toNat ∈ bytes := by
  induction decodes with
  | done => cases found
  | cutOff => simp at found
  | @byte k k' b bs ps qs takes rest ih =>
      rcases List.mem_append.mp found with here | later
      · rw [← takes.byte_of_ascii here ascii, UInt8.ofNat_toNat]
        exact List.mem_cons_self
      · exact List.mem_cons_of_mem b (ih later)

/-! ## Sizes -/

/-- The number of bytes of the text that pieces stand for. -/
def size (ps : List Piece) : Nat := (ps.map fun p => p.lossy.utf8Size).sum

@[simp] theorem size_nil : size [] = 0 := rfl

@[simp] theorem size_cons (p : Piece) (ps : List Piece) :
    size (p :: ps) = p.lossy.utf8Size + size ps := rfl

@[simp] theorem size_append (ps qs : List Piece) : size (ps ++ qs) = size ps + size qs := by
  simp [size]

theorem Takes.size_le (takes : Takes b k ps k') :
    size ps + k' ≤ k + 1 + 2 * ps.count .broken := by
  induction takes with
  | ascii small =>
      have one : (Char.ofNat b.toNat).utf8Size = 1 := by
        rw [utf8Size_eq, toNat_ofNat (.inl (by omega)), if_pos (by omega)]
      simp [Piece.lossy, one]
  | lead | next => simp
  | stray => simp [Piece.lossy, replacement, utf8Size_eq]
  | last _ _ size => simp [Piece.lossy, size]
  | @afresh k k' ps read _ ih =>
      have three : (Piece.lossy .broken).utf8Size = 3 := rfl
      rw [size_cons, List.count_cons_self, three]
      omega

theorem Decodes.size_le (decodes : Decodes k bytes ps) :
    size ps ≤ k + bytes.length + 2 * ps.count .broken := by
  induction decodes with
  | done => simp
  | cutOff read =>
      have three : (Piece.lossy .broken).utf8Size = 3 := rfl
      simp [three]
      omega
  | byte takes rest ih =>
      have here := takes.size_le
      rw [size_append, List.count_append, List.length_cons]
      omega

/-! ## Decoding starts anew at every byte of ASCII -/

theorem Underway.piecesFrom_append (underway : Underway k st) (as bs : List UInt8)
    (ascii : b.toNat < 0x80) :
    piecesFrom st (as ++ b :: bs) =
      piecesFrom st as ++ .scalar (Char.ofNat b.toNat) :: pieces bs := by
  have small : b < 0x80 := UInt8.lt_iff_toNat_lt.mpr ascii
  induction as generalizing k st with
  | nil =>
      cases underway with
      | between => simp [piecesFrom, step, begin, small, pieces]
      | @within k p begun =>
          have apart : ¬ (p.low ≤ b ∧ b ≤ p.high) := by
            rintro ⟨low, -⟩
            have above := UInt8.le_iff_toNat_le.mp low
            have large := begun.low
            omega
          simp [piecesFrom, step, apart, begin, small, pieces]
  | cons a as ih =>
      obtain ⟨k', -, later⟩ := underway.takes a
      simp only [List.cons_append, piecesFrom, ih later, List.append_assoc]

theorem pieces_append_ascii (as bs : List UInt8) (ascii : b.toNat < 0x80) :
    pieces (as ++ b :: bs) = pieces as ++ .scalar (Char.ofNat b.toNat) :: pieces bs :=
  Underway.between.piecesFrom_append as bs ascii

/-! ## Decoding what was encoded -/

/-- The number of a byte. -/
theorem toNat_byte {n : Nat} (small : n < 256) : (UInt8.ofNat n).toNat = n :=
  UInt8.toNat_ofNat_of_lt' small

theorem pieces_two {d : Nat} (low : 2 ≤ d) (high : d < 32) (bytes : List UInt8) :
    pieces (UInt8.ofNat (d + 192) :: bytes) = piecesFrom (some ⟨d, 0, 0x80, 0xBF⟩) bytes := by
  have begins : begin (UInt8.ofNat (d + 192)) = ([], some ⟨d, 0, 0x80, 0xBF⟩) := by
    simp only [begin, lead?, UInt8.lt_iff_toNat_lt, toNat_byte (show d + 192 < 256 by omega),
      UInt8.reduceToNat]
    rw [if_neg (by omega), if_neg (by omega), if_pos (by omega), Nat.add_sub_cancel]
  rw [pieces, piecesFrom, step, begins, List.nil_append]

theorem pieces_three {d : Nat} (high : d < 16) (bytes : List UInt8) :
    pieces (UInt8.ofNat (d + 224) :: bytes) = piecesFrom (some ⟨d, 1,
      if d = 0 then 0xA0 else 0x80, if d = 13 then 0x9F else 0xBF⟩) bytes := by
  have begins : begin (UInt8.ofNat (d + 224)) = ([], some ⟨d, 1,
      if d = 0 then 0xA0 else 0x80, if d = 13 then 0x9F else 0xBF⟩) := by
    simp only [begin, lead?, UInt8.lt_iff_toNat_lt, ← UInt8.toNat_inj,
      toNat_byte (show d + 224 < 256 by omega), UInt8.reduceToNat]
    rw [if_neg (by omega), if_neg (by omega), if_neg (by omega), if_pos (by omega),
      Nat.add_sub_cancel]
    simp only [show d + 224 = 224 ↔ d = 0 by omega, show d + 224 = 237 ↔ d = 13 by omega]
  rw [pieces, piecesFrom, step, begins, List.nil_append]

theorem pieces_four {d : Nat} (high : d < 5) (bytes : List UInt8) :
    pieces (UInt8.ofNat (d + 240) :: bytes) = piecesFrom (some ⟨d, 2,
      if d = 0 then 0x90 else 0x80, if d = 4 then 0x8F else 0xBF⟩) bytes := by
  have begins : begin (UInt8.ofNat (d + 240)) = ([], some ⟨d, 2,
      if d = 0 then 0x90 else 0x80, if d = 4 then 0x8F else 0xBF⟩) := by
    simp only [begin, lead?, UInt8.lt_iff_toNat_lt, ← UInt8.toNat_inj,
      toNat_byte (show d + 240 < 256 by omega), UInt8.reduceToNat]
    rw [if_neg (by omega), if_neg (by omega), if_neg (by omega), if_neg (by omega),
      if_pos (by omega), Nat.add_sub_cancel]
    simp only [show d + 240 = 240 ↔ d = 0 by omega, show d + 240 = 244 ↔ d = 4 by omega]
  rw [pieces, piecesFrom, step, begins, List.nil_append]

/-- Six more bits, in a byte in the range of what is expected. -/
theorem piecesFrom_next {d n : Nat} {bits : Nat} {low high : UInt8} (digit : d < 64)
    (above : low.toNat ≤ d + 128) (below : d + 128 ≤ high.toNat) (bytes : List UInt8) :
    piecesFrom (some ⟨bits, n + 1, low, high⟩) (UInt8.ofNat (d + 128) :: bytes) =
      piecesFrom (some ⟨bits * 64 + d, n, 0x80, 0xBF⟩) bytes := by
  simp only [piecesFrom, step, UInt8.le_iff_toNat_le, toNat_byte (show d + 128 < 256 by omega),
    if_pos (And.intro above below), Nat.add_sub_cancel, List.nil_append]

/-- The last six bits of a character. -/
theorem piecesFrom_last {d : Nat} {bits : Nat} {low high : UInt8} (digit : d < 64)
    (above : low.toNat ≤ d + 128) (below : d + 128 ≤ high.toNat) (bytes : List UInt8) :
    piecesFrom (some ⟨bits, 0, low, high⟩) (UInt8.ofNat (d + 128) :: bytes) =
      .scalar (Char.ofNat (bits * 64 + d)) :: pieces bytes := by
  simp only [piecesFrom, step, UInt8.le_iff_toNat_le, toNat_byte (show d + 128 < 256 by omega),
    if_pos (And.intro above below), Nat.add_sub_cancel, List.singleton_append, pieces]

/-- **A character's bytes are decoded to it**, whatever follows. -/
theorem pieces_encodeChar_append (c : Char) (bytes : List UInt8) :
    pieces (String.utf8EncodeChar c ++ bytes) = .scalar c :: pieces bytes := by
  have valid : c.toNat < 0xD800 ∨ 0xDFFF < c.toNat ∧ c.toNat < 0x110000 := c.valid
  have same : Char.ofNat c.toNat = c := Char.ofNat_toNat c
  simp only [String.utf8EncodeChar, Char.toNat_val]
  generalize c.toNat = v at valid same
  subst same
  by_cases one : v ≤ 0x7F
  · rw [if_pos one]
    have number := toNat_byte (show v < 256 by omega)
    have first := pieces_append_ascii [] bytes (b := UInt8.ofNat v) (by omega)
    rwa [number] at first
  by_cases two : v ≤ 0x7FF
  · rw [if_neg one, if_pos two]
    simp only [List.cons_append, List.nil_append]
    rw [pieces_two (by omega) (by omega), piecesFrom_last (by omega) (by simp) (by simp; omega),
      show v / 64 % 32 * 64 + v % 64 = v by omega]
  by_cases three : v ≤ 0xFFFF
  · rw [if_neg one, if_neg two, if_pos three]
    -- fewer bytes would have done below 0x800, and there are no characters from 0xD800 to 0xDFFF
    have above : (if v / 4096 % 16 = 0 then (0xA0 : UInt8) else 0x80).toNat ≤
        v / 64 % 64 + 128 := by
      split
      · simp only [UInt8.reduceToNat]
        omega
      · exact Nat.le_add_left 128 _
    have below : v / 64 % 64 + 128 ≤
        (if v / 4096 % 16 = 13 then (0x9F : UInt8) else 0xBF).toNat := by
      split
      · simp only [UInt8.reduceToNat]
        omega
      · simp only [UInt8.reduceToNat]
        omega
    simp only [List.cons_append, List.nil_append]
    rw [pieces_three (by omega), piecesFrom_next (by omega) above below,
      piecesFrom_last (by omega) (by simp) (by simp; omega),
      show (v / 4096 % 16 * 64 + v / 64 % 64) * 64 + v % 64 = v by omega]
  · rw [if_neg one, if_neg two, if_neg three]
    -- fewer bytes would have done below 0x10000, and there are no characters from 0x110000 on
    have above : (if v / 262144 % 8 = 0 then (0x90 : UInt8) else 0x80).toNat ≤
        v / 4096 % 64 + 128 := by
      split
      · simp only [UInt8.reduceToNat]
        omega
      · exact Nat.le_add_left 128 _
    have below : v / 4096 % 64 + 128 ≤
        (if v / 262144 % 8 = 4 then (0x8F : UInt8) else 0xBF).toNat := by
      split
      · simp only [UInt8.reduceToNat]
        omega
      · simp only [UInt8.reduceToNat]
        omega
    simp only [List.cons_append, List.nil_append]
    rw [pieces_four (by omega), piecesFrom_next (by omega) above below,
      piecesFrom_next (by omega) (by simp) (by simp; omega),
      piecesFrom_last (by omega) (by simp) (by simp; omega),
      show ((v / 262144 % 8 * 64 + v / 4096 % 64) * 64 + v / 64 % 64) * 64 + v % 64 = v by omega]

/-! ## Texts -/

variable {s : String}

@[simp] theorem toList_decodeLossy (bytes : List UInt8) :
    (decodeLossy bytes).toList = (pieces bytes).map Piece.lossy := String.toList_ofList

theorem pieces_encode_append (s : String) (bytes : List UInt8) :
    pieces (encode s ++ bytes) = s.toList.map .scalar ++ pieces bytes := by
  unfold encode
  induction s.toList with
  | nil => rfl
  | cons c cs ih =>
      rw [List.flatMap_cons, List.append_assoc, pieces_encodeChar_append, ih]
      rfl

theorem pieces_encode (s : String) : pieces (encode s) = s.toList.map .scalar := by
  simpa [show pieces [] = [] from rfl] using pieces_encode_append s []

/-- **The bytes of a text are decoded to the text.** -/
@[simp] theorem decodeLossy_encode (s : String) : decodeLossy (encode s) = s := by
  rw [decodeLossy, pieces_encode, List.map_map]
  have same : Piece.lossy ∘ Piece.scalar = id := rfl
  rw [same, List.map_id, String.ofList_toList]

/-- The bytes of a text are the bytes of a text. -/
@[simp] theorem decode?_encode (s : String) : decode? (encode s) = some s := by
  have read : (s.toList.map Piece.scalar).mapM Piece.scalar? = some (s.toList.map id) := by
    rw [List.mapM_map]
    exact List.mapM_pure
  rw [decode?, pieces_encode, read, List.map_id, Option.map_some, String.ofList_toList]

/-- A character of ASCII in a text was a byte of its own. -/
theorem mem_of_mem_decodeLossy (found : c ∈ (decodeLossy bytes).toList) (ascii : c.toNat < 0x80) :
    UInt8.ofNat c.toNat ∈ bytes := by
  rw [toList_decodeLossy, List.mem_map] at found
  obtain ⟨p, piece, rfl⟩ := found
  cases p with
  | scalar c => exact (decodes bytes).byte_of_ascii piece ascii
  | broken =>
      have far : ¬ replacement.toNat < 0x80 := by decide
      exact absurd ascii far

/-- A byte of ASCII is that of a character of the text. -/
theorem mem_of_mem_encode (found : b ∈ encode s) (ascii : b.toNat < 0x80) :
    Char.ofNat b.toNat ∈ s.toList := by
  obtain ⟨as, bs, split⟩ := List.append_of_mem found
  have here : Piece.scalar (Char.ofNat b.toNat) ∈ pieces (encode s) := by
    rw [split, pieces_append_ascii as bs ascii]
    simp
  simpa [pieces_encode] using here

/-! ## Flaws -/

/-- The number of broken pieces of a byte string. -/
def flaws (bytes : List UInt8) : Nat := (pieces bytes).count .broken

theorem flaws_encode_append (s : String) (bytes : List UInt8) :
    flaws (encode s ++ bytes) = flaws bytes := by
  have sound : (s.toList.map Piece.scalar).count .broken = 0 := by simp [List.count_eq_zero]
  rw [flaws, pieces_encode_append, List.count_append, sound, Nat.zero_add, flaws]

theorem flaws_append_ascii (as bs : List UInt8) (ascii : b.toNat < 0x80) :
    flaws (as ++ b :: bs) = flaws as + flaws bs := by
  simp [flaws, pieces_append_ascii as bs ascii]

theorem length_encode (s : String) : (encode s).length = (s.toList.map Char.utf8Size).sum := by
  rw [encode, List.length_flatMap]
  simp only [String.length_utf8EncodeChar]

theorem length_encode_le (s : String) : (encode s).length ≤ 4 * s.toList.length := by
  rw [length_encode]
  induction s.toList with
  | nil => simp
  | cons c cs ih =>
      have few := c.utf8Size_le_four
      rw [List.map_cons, List.sum_cons, List.length_cons]
      omega

/-- **Decoding makes a text longer than its bytes only where these are broken**, by two bytes at
most for each broken piece. -/
theorem length_encode_decodeLossy_le (bytes : List UInt8) :
    (encode (decodeLossy bytes)).length ≤ bytes.length + 2 * flaws bytes := by
  have bound := (decodes bytes).size_le
  rw [Nat.zero_add] at bound
  rwa [length_encode, toList_decodeLossy, List.map_map]

/-- Bytes that neither are characters nor begin any are flaws, each by itself. -/
theorem pieces_replicate_of_stray (large : ¬ b < 0x80) (stray : lead? b = none) (n : Nat) :
    pieces (List.replicate n b) = List.replicate n .broken := by
  induction n with
  | zero => rfl
  | succ n ih =>
      rw [List.replicate_succ, List.replicate_succ, ← ih]
      rw [pieces, piecesFrom, step, begin, if_neg large, stray]
      rfl

end LineService.Utf8
