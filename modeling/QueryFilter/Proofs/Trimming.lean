import Mathlib.Data.List.DropRight
import QueryFilter.Text.Blank
import QueryFilter.Text.Pieces

/-!
# Trimming and cutting

Blanks around a text do not change what trimming leaves of it (`trim_padded`). So the trimmed parts
of a text are those of the trimmed text (`map_trim_pieces_trim`), and the parts of joined texts are
the parts of each (`pieces_intercalate_eq_flatMap`).
-/

namespace QueryFilter.Text

/-- The text with blanks before and behind it. -/
def Padded (s padded : List Char) : Prop :=
  ∃ before after, padded = before ++ s ++ after ∧
    (∀ c ∈ before, isBlank c = true) ∧ ∀ c ∈ after, isBlank c = true

/-! ### Trimming -/

theorem padded_trim (s : List Char) : Padded (trim s) s := by
  refine ⟨s.takeWhile isBlank, (trimStart s).rtakeWhile isBlank, ?_,
    fun c => List.mem_takeWhile_imp, fun c => List.mem_rtakeWhile_imp⟩
  have back : trim s ++ (trimStart s).rtakeWhile isBlank = trimStart s :=
    List.rdropWhile_append_rtakeWhile ..
  rw [List.append_assoc, back]
  exact List.takeWhile_append_dropWhile.symm

theorem trim_append {s after : List Char} (blank : ∀ c ∈ after, isBlank c = true) :
    trim (s ++ after) = trim s := by
  have behind (t : List Char) : trimEnd (t ++ after) = trimEnd t := by
    rw [trimEnd, trimEnd, List.reverse_append, List.dropWhile_append_of_pos]
    exact fun c member => blank c (List.mem_reverse.mp member)
  rw [trim, trim, trimStart, List.dropWhile_append]
  split
  · rename_i empty
    rw [List.dropWhile_eq_nil_iff.mpr blank, trimStart, List.isEmpty_iff.mp empty]
  · exact behind _

theorem trim_padded {s padded : List Char} (h : Padded s padded) : trim padded = trim s := by
  obtain ⟨before, after, rfl, front, back⟩ := h
  rw [trim_append back, trim, trimStart, List.dropWhile_append_of_pos front]
  rfl

@[simp] theorem trim_trim (s : List Char) : trim (trim s) = trim s :=
  (trim_padded (padded_trim s)).symm

theorem mem_of_mem_trim {s : List Char} {c : Char} (member : c ∈ trim s) : c ∈ s := by
  obtain ⟨before, after, same, -⟩ := padded_trim s
  rw [same]
  exact List.mem_append_left _ (List.mem_append_right _ member)

theorem trim_of_ends {s : List Char} (first : ∀ c ∈ s.head?, isBlank c = false)
    (last : ∀ c ∈ s.getLast?, isBlank c = false) : trim s = s := by
  have start : trimStart s = s := by
    cases s with
    | nil => rfl
    | cons c rest => exact List.dropWhile_cons_of_neg (by simp [first c rfl])
  rw [trim, start]
  refine List.rdropWhile_eq_self_iff.mpr fun nonempty => ?_
  simp [last _ (List.getLast?_eq_getLast_of_ne_nil nonempty)]

theorem trim_of_no_blank {s : List Char} (h : ∀ c ∈ s, isBlank c = false) : trim s = s :=
  trim_of_ends (fun c first => h c (List.mem_of_mem_head? first))
    fun c last => h c (List.mem_of_getLast? last)

/-! ### Cutting -/

variable {sep : Char}

theorem pieces_append_sep (s t : List Char) :
    pieces sep (s ++ sep :: t) = pieces sep s ++ pieces sep t := by
  induction s with
  | nil => simp [pieces]
  | cons c rest ih =>
    by_cases h : c = sep
    · rw [List.cons_append, pieces, if_pos h, ih, pieces, if_pos h, List.cons_append]
    · obtain ⟨first, others, cut⟩ := List.exists_cons_of_ne_nil (pieces_ne_nil sep rest)
      simp only [List.cons_append, pieces, if_neg h, ih, cut]

theorem pieces_intercalate_eq_flatMap {texts : List (List Char)} (nonempty : texts ≠ []) :
    pieces sep ([sep].intercalate texts) = texts.flatMap (pieces sep) := by
  induction texts with
  | nil => exact absurd rfl nonempty
  | cons text rest ih =>
    cases rest with
    | nil => simp
    | cons next more =>
      rw [List.intercalate_cons_cons, List.append_assoc, List.singleton_append, pieces_append_sep,
        ih (List.cons_ne_nil _ _)]
      exact List.flatMap_cons.symm

@[simp] theorem length_pieces (s : List Char) : (pieces sep s).length = s.count sep + 1 := by
  induction s with
  | nil => rfl
  | cons c rest ih =>
    by_cases h : c = sep
    · rw [pieces, if_pos h, List.length_cons, ih, h, List.count_cons_self]
    · obtain ⟨first, others, cut⟩ := List.exists_cons_of_ne_nil (pieces_ne_nil sep rest)
      rw [cut] at ih
      simp only [pieces, if_neg h, cut, List.count_cons_of_ne h]
      exact ih

theorem pieces_free_append {before : List Char} (free : sep ∉ before) (s : List Char) :
    ∃ first others, pieces sep s = first :: others ∧
      pieces sep (before ++ s) = (before ++ first) :: others := by
  obtain ⟨first, others, cut⟩ := List.exists_cons_of_ne_nil (pieces_ne_nil sep s)
  refine ⟨first, others, cut, ?_⟩
  induction before with
  | nil => exact cut
  | cons c rest ih =>
    rw [List.mem_cons, not_or] at free
    rw [List.cons_append, pieces, if_neg (Ne.symm free.1), ih free.2]
    rfl

theorem pieces_append_free {after : List Char} (free : sep ∉ after) (s : List Char) :
    ∃ others last, pieces sep s = others ++ [last] ∧
      pieces sep (s ++ after) = others ++ [last ++ after] := by
  induction s with
  | nil => exact ⟨[], [], rfl, pieces_of_not_mem free⟩
  | cons c rest ih =>
    obtain ⟨others, last, cut, longer⟩ := ih
    by_cases h : c = sep
    · exact ⟨[] :: others, last, by simp [pieces, h, cut], by simp [pieces, h, longer]⟩
    · cases others with
      | nil =>
        exact ⟨[], c :: last, by simp [pieces, h, cut], by simp [pieces, h, longer]⟩
      | cons first more =>
        exact ⟨(c :: first) :: more, last, by simp [pieces, h, cut], by simp [pieces, h, longer]⟩

theorem not_mem_of_blank (solid : isBlank sep = false) {s : List Char}
    (blank : ∀ c ∈ s, isBlank c = true) : sep ∉ s := fun member => by
  rw [blank sep member] at solid
  exact nomatch solid

theorem map_trim_pieces_padded (solid : isBlank sep = false) {s padded : List Char}
    (h : Padded s padded) : (pieces sep padded).map trim = (pieces sep s).map trim := by
  obtain ⟨before, after, rfl, front, back⟩ := h
  obtain ⟨others, last, cut, longer⟩ :=
    pieces_append_free (not_mem_of_blank solid back) (before ++ s)
  obtain ⟨first, more, inner, outer⟩ := pieces_free_append (not_mem_of_blank solid front) s
  have start : trim (before ++ first) = trim first :=
    trim_padded ⟨before, [], (List.append_nil _).symm, front, by simp⟩
  calc (pieces sep (before ++ s ++ after)).map trim
      = (pieces sep (before ++ s)).map trim := by rw [longer, cut]; simp [trim_append back]
    _ = (pieces sep s).map trim := by rw [outer, inner, List.map_cons, List.map_cons, start]

theorem map_trim_pieces_trim (solid : isBlank sep = false) (s : List Char) :
    (pieces sep (trim s)).map trim = (pieces sep s).map trim :=
  (map_trim_pieces_padded solid (padded_trim s)).symm

/-- The only text whose parts come to one empty part is the blank one. -/
theorem map_trim_pieces_eq_blank_iff (solid : isBlank sep = false) {s : List Char} :
    (pieces sep s).map trim = [[]] ↔ trim s = [] := by
  rw [← map_trim_pieces_trim solid]
  constructor
  · intro one
    have free : sep ∉ trim s := by
      have length := congrArg List.length one
      rw [List.length_map, length_pieces, List.length_singleton] at length
      exact List.count_eq_zero.mp (by omega)
    rw [pieces_of_not_mem free] at one
    simpa using one
  · intro empty
    simp [empty, pieces]

end QueryFilter.Text
