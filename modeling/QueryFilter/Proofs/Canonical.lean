import QueryFilter.Proofs.Decoding
import QueryFilter.Proofs.ScalarText

/-!
# Values as text

A filter value is written with commas between its scalars. Decoding takes whatever spelling of a
value to one that decoding its own text gives again: each scalar is read from what it is written as
(`Reads.of_written`), and the written scalars are the trimmed parts of the whole
(`parts_intercalate`).
-/

namespace QueryFilter.FilterValue

def render : FilterValue → String
  | none => ""
  | scalar value => value.render
  | list values => ",".intercalate (values.map Scalar.render)
  | pair low high => low.render ++ "," ++ high.render
  | sort direction => direction.token

def written (values : List Scalar) : List (List Char) :=
  values.map fun value => value.render.toList

theorem toList_render {value : FilterValue} (nonempty : value.scalars ≠ []) :
    value.render.toList = [','].intercalate (written value.scalars) := by
  cases value with
  | none | sort => exact absurd rfl nonempty
  | scalar => simp [render, scalars, written]
  | list => simp [render, scalars, written, Function.comp_def]
  | pair => simp [render, scalars, written]

/-! ### The parts of a written value -/

theorem isPart_of_mem_parts {s part : List Char} (member : part ∈ parts s) : IsPart part := by
  obtain ⟨piece, cut, rfl⟩ := List.mem_map.mp member
  exact ⟨fun comma => Text.not_mem_of_mem_pieces cut (Text.mem_of_mem_trim comma),
    Text.trim_trim piece⟩

theorem parts_intercalate {texts : List (List Char)} (nonempty : texts ≠ [])
    (cut : ∀ text ∈ texts, IsPart text) : parts ([','].intercalate texts) = texts := by
  rw [parts, Text.pieces_intercalate nonempty fun text member => (cut text member).comma]
  exact (List.map_congr_left fun text member => (cut text member).trimmed).trans (List.map_id _)

section
variable {fieldType : FieldType} {pieces : List (List Char)} {values : List Scalar}
  (notFloat : fieldType ≠ .float)

include notFloat

theorem Reads.of_written (reads : Reads fieldType pieces values) :
    Reads fieldType (written values) values := by
  induction reads with
  | nil => exact .nil
  | cons read _ ih => exact .cons (Scalar.ofText?_render notFloat read) ih

theorem Reads.isPart_of_mem_written (reads : Reads fieldType pieces values)
    (cut : ∀ piece ∈ pieces, IsPart piece) : ∀ text ∈ written values, IsPart text := by
  induction reads with
  | nil => exact List.forall_mem_nil _
  | cons read _ ih =>
    obtain ⟨part, others⟩ := List.forall_mem_cons.mp cut
    exact List.forall_mem_cons.mpr ⟨Scalar.isPart_render notFloat read part, ih others⟩

/-- Only the blank text gives a value that is written as nothing. -/
theorem Reads.written_ne_blank (reads : Reads fieldType pieces values) (nonblank : pieces ≠ [[]]) :
    written values ≠ [[]] := by
  intro blank
  cases reads with
  | nil => exact nomatch blank
  | cons read others =>
    obtain ⟨empty, single⟩ := List.cons.inj blank
    obtain rfl := List.map_eq_nil_iff.mp single
    obtain rfl := List.forall₂_nil_right_iff.mp others
    exact nonblank (by rw [Scalar.eq_nil_of_render_eq_nil notFloat read empty])

end

/-! ### Decoding a written value -/

theorem decode_render_of_readsValues {raw : String} {fieldType : FieldType} {op : Operator}
    {value : FilterValue} (reads : op.readsValues = true) (notFloat : fieldType ≠ .float)
    (read : decode raw fieldType op = .ok value) :
    decode value.render fieldType op = .ok value := by
  rw [decode_eq_ofParts reads] at read ⊢
  by_cases blank : parts raw.toList = [[]]
  · -- The blank text gives the empty text, if anything, and that is written as no character.
    have empty := read
    rw [ofParts, if_pos blank, ofEmpty] at empty
    split at empty
    · obtain rfl := Except.ok.inj empty
      rw [ofParts, if_pos blank] at read
      exact read
    · cases empty
  · obtain ⟨values, taken, made⟩ := (ofParts_eq_ok_iff blank).mp read
    have same := scalars_of_ofScalars made
    have nonempty := Reads.ne_nil taken (parts_ne_nil _)
    have texts : parts value.render.toList = written values := by
      rw [toList_render (same ▸ nonempty), same]
      exact parts_intercalate (mt List.map_eq_nil_iff.mp nonempty)
        (Reads.isPart_of_mem_written notFloat taken fun _ => isPart_of_mem_parts)
    rw [texts, ofParts_eq_ok_iff (Reads.written_ne_blank notFloat taken blank)]
    refine ⟨values, Reads.of_written notFloat taken, ?_⟩
    rw [ofScalars_about op (Text.trimmed raw), made]
    rfl

/-- A decoded value is decoded again from its own text, whatever it was decoded from. -/
theorem decode_render {raw : String} {fieldType : FieldType} {op : Operator} {value : FilterValue}
    (notFloat : fieldType ≠ .float) (comparing : op ≠ .like)
    (read : decode raw fieldType op = .ok value) :
    decode value.render fieldType op = .ok value := by
  cases op with
  | like => exact absurd rfl comparing
  | isNull | isNotNull =>
    obtain rfl := Except.ok.inj read
    rfl
  | sort =>
    obtain rfl := Except.ok.inj read
    exact congrArg (Except.ok ∘ sort) (SortDirection.ofText_token _)
  | eq | neq | gt | gte | lt | lte | between | within | notWithin =>
    exact decode_render_of_readsValues rfl notFloat read

/-- Integers on both sides of the greatest `int`, years outside of four digits, a leap second with
a fraction, a UUID in braces and empty texts in a list. -/
theorem decode_render_spellings :
    (∃ value, decode " -9223372036854775808,009223372036854775807, +9223372036854775808"
        .bigInteger .eq = .ok value ∧
      value.render = "-9223372036854775808,9223372036854775807,9223372036854775808" ∧
      decode value.render .bigInteger .eq = .ok value) ∧
    (∃ value, decode "-44-3-15, +12345-01-02" .date .between = .ok value ∧
      value.render = "-0044-03-15,+12345-01-02" ∧
      decode value.render .date .between = .ok value) ∧
    (∃ value, decode "2016-12-31T23:59:60.5-01:30" .dateTime .gt = .ok value ∧
      value.render = "2017-01-01 01:29:60.500" ∧
      decode value.render .dateTime .gt = .ok value) ∧
    (∃ value, decode "\x7b67E55044-10B1-426F-9247-BB680E5FE0C8\x7d" .uuid .neq = .ok value ∧
      value.render = "67e55044-10b1-426f-9247-bb680e5fe0c8" ∧
      decode value.render .uuid .neq = .ok value) ∧
    ∃ value, decode " a,, b ," .string .notWithin = .ok value ∧
      value.render = "a,,b," ∧ decode value.render .string .notWithin = .ok value := by
  have integers : decode " -9223372036854775808,009223372036854775807, +9223372036854775808"
      .bigInteger .eq = .ok (list [.int (-9223372036854775808), .int 9223372036854775807,
        .bigUnsigned 9223372036854775808]) := by
    decide +kernel
  have dates : decode "-44-3-15, +12345-01-02" .date .between =
      .ok (pair (.date ⟨-44, 3, 15, by decide⟩) (.date ⟨12345, 1, 2, by decide⟩)) := by
    decide +kernel
  have leap : decode "2016-12-31T23:59:60.5-01:30" .dateTime .gt = .ok (scalar (.dateTime
      ⟨⟨2017, 1, 1, by decide⟩, ⟨1, 29, 60, 500000000, by decide⟩⟩)) := by
    decide +kernel
  have uuid : decode "\x7b67E55044-10B1-426F-9247-BB680E5FE0C8\x7d" .uuid .neq =
      .ok (scalar (.uuid ⟨[6, 7, 14, 5, 5, 0, 4, 4, 1, 0, 11, 1, 4, 2, 6, 15, 9, 2, 4, 7, 11, 11,
        6, 8, 0, 14, 5, 15, 14, 0, 12, 8], rfl⟩)) := by
    decide +kernel
  have texts : decode " a,, b ," .string .notWithin =
      .ok (list [.text "a", .text "", .text "b", .text ""]) := by
    decide +kernel
  exact ⟨⟨_, integers, by decide +kernel, decode_render (by decide) (by decide) integers⟩,
    ⟨_, dates, by decide +kernel, decode_render (by decide) (by decide) dates⟩,
    ⟨_, leap, by decide +kernel, decode_render (by decide) (by decide) leap⟩,
    ⟨_, uuid, by decide +kernel, decode_render (by decide) (by decide) uuid⟩,
    ⟨_, texts, by decide +kernel, decode_render (by decide) (by decide) texts⟩⟩

end QueryFilter.FilterValue
