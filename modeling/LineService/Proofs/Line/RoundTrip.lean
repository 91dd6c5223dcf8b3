import LineService.Proofs.Line.Texts

/-!
# Texts that are read back as they were written

Texts are written one after the other and the stream is read until its end.  A text without line
feeds is read back without the terminators at its end if it fits, and comes to trouble if it does
not (`reads_write_append_iff`), so for such texts it is known what is read (`reads_write_iff`).

A text with a line feed is read as several.  It cannot be made up for by its neighbours: as many
texts are read as there are line feeds, one was written for each text, and every line feed inside
a text adds one (`count_write`).  So no text has any where as many are read as were written, and
the texts that are read back are exactly those that are lines and fit (`written_read_back`).
-/

set_option autoImplicit false

namespace LineService.Line

variable {rest : List UInt8} {text : String} {texts others : List String}

/-! ## Texts without line feeds -/

/-- A text without line feeds is read back without the terminators at its end if it fits, and
otherwise not at all. -/
theorem reads_write_append_iff (free : '\n' ∉ text.toList) : Reads (write text ++ rest) others ↔
    Fits text ∧ ∃ later, others = trim text :: later ∧ Reads rest later := by
  constructor
  · intro reads
    have nonempty : write text ++ rest ≠ [] := by simp [write]
    cases reads with
    | finished ended => exact absurd (next_eq_finished_iff.mp (congrArg Prod.fst ended)) nonempty
    | line read later =>
        by_cases fits : Fits text
        · rw [next_write_append free fits] at read
          cases read
          exact ⟨fits, _, rfl, later⟩
        · have trouble := next_write_append_of_long free fits rest
          rw [read] at trouble
          cases trouble
  · rintro ⟨fits, later, rfl, reads⟩
    exact .line (next_write_append free fits rest) reads

/-- **What is read of texts without line feeds**: each without the terminators at its end. -/
theorem reads_write_iff (free : ∀ t ∈ texts, '\n' ∉ t.toList) :
    Reads (texts.flatMap write) others ↔ (∀ t ∈ texts, Fits t) ∧ others = texts.map trim := by
  induction texts generalizing others with
  | nil =>
      constructor
      · intro reads
        exact ⟨nofun, reads_nil.unique reads⟩
      · rintro ⟨-, rfl⟩
        exact reads_nil
  | cons t ts ih =>
      rw [List.forall_mem_cons] at free
      rw [List.flatMap_cons, reads_write_append_iff free.1, List.forall_mem_cons, List.map_cons]
      constructor
      · rintro ⟨fits, later, rfl, reads⟩
        obtain ⟨others, rfl⟩ := (ih free.2).mp reads
        exact ⟨⟨fits, others⟩, rfl⟩
      · rintro ⟨⟨fits, others⟩, rfl⟩
        exact ⟨fits, _, rfl, (ih free.2).mpr ⟨others, rfl⟩⟩

/-! ## Line feeds in a stream -/

theorem whole_writes (texts : List String) : Whole (texts.flatMap write) := by
  induction texts with
  | nil => exact whole_nil
  | cons t ts ih => exact whole_write_append t ih

/-- One line feed is written for each text, besides those that the texts contain. -/
theorem count_write (texts : List String) : (texts.flatMap write).count terminator =
    texts.length + (texts.map fun t => (Utf8.encode t).count terminator).sum := by
  induction texts with
  | nil => rfl
  | cons t ts ih =>
      rw [List.flatMap_cons, List.count_append, ih, write, List.count_append, List.map_cons,
        List.sum_cons, List.length_cons, List.count_singleton_self]
      omega

theorem terminator_mem_encode (feed : '\n' ∈ text.toList) : terminator ∈ Utf8.encode text :=
  List.mem_flatMap.mpr ⟨'\n', feed, by decide⟩

/-- **Where as many texts are read as were written, none contains a line feed.** -/
theorem free_of_reads (reads : Reads (texts.flatMap write) others)
    (as_many : others.length = texts.length) : ∀ t ∈ texts, '\n' ∉ t.toList := by
  intro t member feed
  have count := reads.length_eq (whole_writes texts)
  rw [count_write, as_many] at count
  have total : (texts.map fun t => (Utf8.encode t).count terminator).sum = 0 := by omega
  have here := List.sum_eq_zero_iff_forall_eq_nat.mp total _ (List.mem_map.mpr ⟨t, member, rfl⟩)
  exact List.count_eq_zero.mp here (terminator_mem_encode feed)

/-! ## The round trip -/

/-- Texts stay as they are when they are trimmed if none ends in a terminator. -/
theorem map_trim_eq_iff : texts = texts.map trim ↔ ∀ t ∈ texts, trim t = t := by
  rw [← List.map_inj_left, List.map_id', eq_comm]

/-- **Texts that are written one after the other are read back as they were, and without trouble,
exactly if none of them contains a line feed, ends in a carriage return, or takes with its line
feed more bytes than a line may have.** -/
theorem written_read_back (texts : List String) : Reads (texts.flatMap write) texts ↔
    ∀ t ∈ texts, '\n' ∉ t.toList ∧ t.toList.getLast? ≠ some '\r' ∧
      (Utf8.encode t).length < limit := by
  constructor
  · intro reads
    have free := free_of_reads reads rfl
    obtain ⟨fits, same⟩ := (reads_write_iff free).mp reads
    intro t member
    have trimmed : trim t = t := map_trim_eq_iff.mp same t member
    exact ⟨free t member, (trim_eq_self_iff.mp trimmed).1, fits_iff.mp (fits t member)⟩
  · intro lines
    refine (reads_write_iff fun t member => (lines t member).1).mpr ⟨?fits, ?same⟩
    case fits => exact fun t member => fits_iff.mpr (lines t member).2.2
    case same =>
      refine map_trim_eq_iff.mpr fun t member => ?_
      obtain ⟨free, last, -⟩ := lines t member
      exact Clean.trim_eq ⟨free, last⟩

end LineService.Line
