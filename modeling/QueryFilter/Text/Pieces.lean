/-!
# Separated text

`pieces` cuts a text at every separator, so that no part has one (`not_mem_of_mem_pieces`); parts
without a separator that are joined by it are cut apart again (`pieces_intercalate`). `splitFirst`
cuts at the first separator only.
-/

namespace QueryFilter.Text

/-- The parts before and after the first `sep`, which belongs to neither. -/
def splitFirst (sep : Char) : List Char → Option (List Char × List Char)
  | [] => none
  | c :: rest =>
    if c = sep then some ([], rest)
    else (splitFirst sep rest).map fun (before, after) => (c :: before, after)

/-- The maximal parts free of `sep`, in order; there is always at least one. -/
def pieces (sep : Char) : List Char → List (List Char)
  | [] => [[]]
  | c :: rest =>
    if c = sep then [] :: pieces sep rest
    else match pieces sep rest with
      | [] => [[c]]
      | first :: others => (c :: first) :: others

theorem pieces_ne_nil (sep : Char) (s : List Char) : pieces sep s ≠ [] := by
  cases s with
  | nil => simp [pieces]
  | cons c rest =>
    unfold pieces
    split
    · simp
    · split <;> simp

theorem not_mem_of_mem_pieces {sep : Char} {s part : List Char} (h : part ∈ pieces sep s) :
    sep ∉ part := by
  induction s generalizing part with
  | nil => simp_all [pieces]
  | cons c rest ih =>
    unfold pieces at h
    by_cases hc : c = sep
    · rw [if_pos hc] at h
      rcases List.mem_cons.1 h with rfl | h
      · simp
      · exact ih h
    · rw [if_neg hc] at h
      split at h
      · exact absurd ‹_› (pieces_ne_nil sep rest)
      · rename_i first others hp
        rcases List.mem_cons.1 h with rfl | h
        · have := ih (hp ▸ List.mem_cons_self : first ∈ pieces sep rest)
          simp [this, Ne.symm hc]
        · exact ih (hp ▸ List.mem_cons_of_mem _ h)

theorem pieces_of_not_mem {sep : Char} {s : List Char} (h : sep ∉ s) : pieces sep s = [s] := by
  induction s with
  | nil => rfl
  | cons c rest ih =>
    rw [List.mem_cons, not_or] at h
    rw [pieces, if_neg (Ne.symm h.1), ih h.2]

theorem pieces_append_cons {sep : Char} {part : List Char} (h : sep ∉ part) (s : List Char) :
    pieces sep (part ++ sep :: s) = part :: pieces sep s := by
  induction part with
  | nil => simp [pieces]
  | cons c rest ih =>
    rw [List.mem_cons, not_or] at h
    rw [List.cons_append, pieces, if_neg (Ne.symm h.1), ih h.2]

theorem pieces_intercalate {sep : Char} {parts : List (List Char)} (hne : parts ≠ [])
    (h : ∀ part ∈ parts, sep ∉ part) : pieces sep ([sep].intercalate parts) = parts := by
  induction parts with
  | nil => exact absurd rfl hne
  | cons part rest ih =>
    have hpart : sep ∉ part := h part List.mem_cons_self
    cases rest with
    | nil =>
      rw [List.intercalate_singleton]
      exact pieces_of_not_mem hpart
    | cons next more =>
      have hrest : ∀ p ∈ next :: more, sep ∉ p := fun p hp => h p (List.mem_cons_of_mem _ hp)
      rw [List.intercalate_cons_cons, List.append_assoc, List.singleton_append,
        pieces_append_cons hpart, ih (List.cons_ne_nil _ _) hrest]

theorem splitFirst_eq_none_iff {sep : Char} {s : List Char} :
    splitFirst sep s = none ↔ sep ∉ s := by
  induction s with
  | nil => simp [splitFirst]
  | cons c rest ih =>
    by_cases h : c = sep
    · simp [splitFirst, h]
    · simp [splitFirst, h, ih, Ne.symm h]

theorem eq_append_of_splitFirst {sep : Char} {s before after : List Char}
    (h : splitFirst sep s = some (before, after)) : s = before ++ sep :: after ∧ sep ∉ before := by
  induction s generalizing before with
  | nil => simp [splitFirst] at h
  | cons c rest ih =>
    by_cases hc : c = sep
    · simp only [splitFirst, hc, if_true, Option.some.injEq, Prod.mk.injEq] at h
      obtain ⟨rfl, rfl⟩ := h
      simp [hc]
    · simp only [splitFirst, hc, if_false, Option.map_eq_some_iff, Prod.exists,
        Prod.mk.injEq] at h
      obtain ⟨b, a, hba, rfl, rfl⟩ := h
      obtain ⟨hs, hb⟩ := ih hba
      exact ⟨by rw [hs]; rfl, by simp [hb, Ne.symm hc]⟩

theorem splitFirst_append_cons {sep : Char} {before : List Char} (h : sep ∉ before)
    (after : List Char) : splitFirst sep (before ++ sep :: after) = some (before, after) := by
  induction before with
  | nil => simp [splitFirst]
  | cons c rest ih =>
    rw [List.mem_cons, not_or] at h
    rw [List.cons_append, splitFirst, if_neg (Ne.symm h.1), ih h.2]
    rfl

end QueryFilter.Text
