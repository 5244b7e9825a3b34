import QueryFilter.Proofs.CalendarText
import QueryFilter.Proofs.Trimming
import QueryFilter.Proofs.Typing

/-!
# Written scalars read back

A scalar that was read as a value of a type, in whatever spelling, is read again from the text that
it is written as (`ofText?_render`). That text has no comma in it and no blanks around it, so a list
of such texts can be taken apart again (`isPart_render`). Doubles are left out: a NaN is equal to
nothing.
-/

namespace QueryFilter

/-- A text that is a trimmed part of the texts that it is listed in. -/
structure IsPart (s : List Char) : Prop where
  comma : ',' ∉ s
  trimmed : Text.trim s = s

/-- Neither a comma nor a blank. -/
def Solid (c : Char) : Prop := c ≠ ',' ∧ Text.isBlank c = false

instance (c : Char) : Decidable (Solid c) := inferInstanceAs (Decidable (_ ∧ _))

theorem IsPart.of_solid {s : List Char} (solid : ∀ c ∈ s, Solid c) : IsPart s where
  comma member := (solid _ member).1 rfl
  trimmed := Text.trim_of_no_blank fun c member => (solid c member).2

theorem IsPart.of_ends {front back : List Char} (hasFront : front ≠ []) (hasBack : back ≠ [])
    (solidFront : ∀ c ∈ front, Solid c) (solidBack : ∀ c ∈ back, Solid c) :
    IsPart (front ++ ' ' :: back) where
  comma member := by
    rcases List.mem_append.mp member with member | member
    · exact (solidFront _ member).1 rfl
    · rcases List.mem_cons.mp member with same | member
      · exact absurd same (by decide)
      · exact (solidBack _ member).1 rfl
  trimmed := by
    refine Text.trim_of_ends (fun c first => ?_) fun c last => ?_
    · rw [List.head?_append_of_ne_nil _ hasFront] at first
      exact (solidFront c (List.mem_of_mem_head? first)).2
    · rw [List.getLast?_append_of_ne_nil _ (List.cons_ne_nil _ _),
        List.getLast?_cons_of_ne_nil hasBack] at last
      exact (solidBack c (List.mem_of_getLast? last)).2

/-! ### The characters of written scalars -/

theorem solid_of_isDigit {c : Char} (digit : c.isDigit = true) : Solid c := by
  refine ⟨?_, Text.not_isBlank_of_isDigit digit⟩
  rintro rfl
  exact absurd digit (by decide)

theorem Decimal.solid_toDigits (n : Nat) : ∀ c ∈ Nat.toDigits 10 n, Solid c := fun _ member =>
  solid_of_isDigit (Nat.isDigit_of_mem_toDigits (by decide) (by decide) member)

theorem Decimal.solid_padded (width n : Nat) : ∀ c ∈ padded width n, Solid c := fun _ member =>
  solid_of_isDigit (isDigit_of_mem_padded member)

theorem Decimal.solid_render (n : Int) : ∀ c ∈ Decimal.render n, Solid c := by
  unfold Decimal.render
  split
  · exact List.forall_mem_cons.mpr ⟨by decide, solid_toDigits _⟩
  · exact solid_toDigits _

theorem Calendar.Date.solid_render (d : Date) : ∀ c ∈ d.render, Solid c := by
  have year : ∀ c ∈ renderYear d.year, Solid c := by
    unfold renderYear
    split
    · exact Decimal.solid_padded 4 _
    · refine List.forall_mem_cons.mpr ⟨?_, Decimal.solid_padded 4 _⟩
      split <;> decide
  have hyphen : Solid '-' := by decide
  simp only [render, List.forall_mem_append, List.forall_mem_cons]
  exact ⟨⟨year, hyphen, Decimal.solid_padded 2 _⟩, hyphen, Decimal.solid_padded 2 _⟩

theorem Calendar.Time.solid_render (t : Time) : ∀ c ∈ t.render, Solid c := by
  have point : Solid '.' := by decide
  have fraction : ∀ c ∈ renderFraction t.nanosecond, Solid c := by
    unfold renderFraction
    repeat' split
    · exact List.forall_mem_nil _
    all_goals exact List.forall_mem_cons.mpr ⟨point, Decimal.solid_padded _ _⟩
  have colon : Solid ':' := by decide
  rw [render_eq]
  simp only [List.forall_mem_append, List.forall_mem_cons]
  exact ⟨Decimal.solid_padded 2 _, colon, Decimal.solid_padded 2 _, colon,
    Decimal.solid_padded 2 _, fraction⟩

theorem Uuid.solid_digits (u : Uuid) : ∀ c ∈ u.digits.map digitChar, Solid c := by
  have every : ∀ d : Fin 16, Solid (digitChar d) := by decide
  intro c member
  obtain ⟨d, -, rfl⟩ := List.mem_map.mp member
  exact every d

theorem Uuid.solid_render (u : Uuid) : ∀ c ∈ u.render, Solid c := by
  have digits := u.solid_digits
  have hyphen : Solid '-' := by decide
  have taken (n m : Nat) : ∀ c ∈ ((u.digits.map digitChar).drop n).take m, Solid c :=
    fun c member => digits c (List.mem_of_mem_drop (List.mem_of_mem_take member))
  simp only [render, List.forall_mem_append, List.forall_mem_cons]
  exact ⟨⟨⟨⟨fun c member => digits c (List.mem_of_mem_take member), hyphen, taken 8 4⟩, hyphen,
    taken 12 4⟩, hyphen, taken 16 4⟩, hyphen,
    fun c member => digits c (List.mem_of_mem_drop member)⟩

/-! ### UUIDs -/

namespace Uuid

theorem hyphen_not_mem_digits (u : Uuid) : '-' ∉ u.digits.map digitChar := by
  have every : ∀ d : Fin 16, digitChar d ≠ '-' := by decide
  intro member
  obtain ⟨d, -, same⟩ := List.mem_map.mp member
  exact every d same

theorem mapM_digit?_map_digitChar (digits : List (Fin 16)) :
    (digits.map digitChar).mapM digit? = some digits := by
  induction digits with
  | nil => rfl
  | cons d rest ih => simp [digit?_digitChar, ih]

@[simp] theorem ofDigits?_map_digitChar (u : Uuid) :
    ofDigits? (u.digits.map digitChar) = some u := by
  rw [ofDigits?, mapM_digit?_map_digitChar]
  exact dif_pos u.length_digits

theorem pieces_render (u : Uuid) :
    let s := u.digits.map digitChar
    Text.pieces '-' u.render =
      [s.take 8, (s.drop 8).take 4, (s.drop 12).take 4, (s.drop 16).take 4, s.drop 20] := by
  have free := u.hyphen_not_mem_digits
  have front : '-' ∉ (u.digits.map digitChar).take 8 := fun h => free (List.mem_of_mem_take h)
  have back : '-' ∉ (u.digits.map digitChar).drop 20 := fun h => free (List.mem_of_mem_drop h)
  have middle (n : Nat) : '-' ∉ ((u.digits.map digitChar).drop n).take 4 := fun h =>
    free (List.mem_of_mem_drop (List.mem_of_mem_take h))
  simp only [render, Text.pieces_append_sep, Text.pieces_of_not_mem front,
    Text.pieces_of_not_mem back, Text.pieces_of_not_mem (middle _), List.cons_append,
    List.nil_append]

theorem flatten_groups (s : List Char) :
    [s.take 8, (s.drop 8).take 4, (s.drop 12).take 4, (s.drop 16).take 4, s.drop 20].flatten =
      s := by
  have group (n : Nat) : (s.drop n).take 4 ++ s.drop (n + 4) = s.drop n := by
    rw [← List.drop_drop, List.take_append_drop]
  simp only [List.flatten_cons, List.flatten_nil, List.append_nil, group, List.take_append_drop]

theorem ofGroups?_render (u : Uuid) : ofGroups? u.render = some u := by
  have sizes : (Text.pieces '-' u.render).map List.length = groupSizes := by
    simp [pieces_render, u.length_digits, groupSizes]
  rw [ofGroups?, if_pos sizes, pieces_render, flatten_groups, ofDigits?_map_digitChar]

theorem ofDigits?_render (u : Uuid) : ofDigits? u.render = none := by
  have hyphen : digit? '-' = none := by decide
  simp [ofDigits?, render, hyphen]

theorem ofText?_render (u : Uuid) : ofText? u.render = some u := by
  rw [ofText?, ofDigits?_render, ofGroups?_render, Option.none_or, Option.some_or]

end Uuid

/-! ### Reading a written scalar -/

namespace Scalar

theorem integer?_render {n : Int} (range : leastInt ≤ n ∧ n ≤ greatestInt) :
    integer? (Decimal.render n) = some (.int n) :=
  integer?_eq_some_iff.mpr ⟨n, Decimal.spells_render n, range, rfl⟩

theorem bigInteger?_render {n : Int} (range : leastInt ≤ n ∧ n ≤ greatestUnsigned) :
    bigInteger? (Decimal.render n) = some (ofInteger n) :=
  bigInteger?_eq_some_iff.mpr ⟨n, Decimal.spells_render n, range, rfl⟩

theorem bigInteger?_render_natural {n : Nat} (range : greatestInt < n ∧ n ≤ greatestUnsigned) :
    bigInteger? (Decimal.render n) = some (.bigUnsigned n) := by
  have least : leastInt ≤ n := (show leastInt ≤ 0 by decide).trans (Int.natCast_nonneg n)
  rw [bigInteger?_render ⟨least, range.2⟩, ofInteger, if_neg (Int.not_le.mpr range.1),
    Int.toNat_natCast]

theorem boolean?_render (b : Bool) : boolean? (renderBool b).toList = some (.bool b) := by
  cases b <;> decide

variable {fieldType : FieldType} {s : List Char} {value : Scalar}

/-- A scalar that was read from any text is read again from its own. -/
theorem ofText?_render (notFloat : fieldType ≠ .float) (read : ofText? fieldType s = some value) :
    ofText? fieldType value.render.toList = some value := by
  have typed := hasType_of_ofText? read
  cases fieldType with
  | float => exact absurd rfl notFloat
  | integer =>
    cases value with
    | int n => rw [render, String.toList_ofList]; exact integer?_render typed
    | bigUnsigned | float | bool | text | date | dateTime | uuid => exact typed.elim
  | bigInteger =>
    cases value with
    | int n => rw [render, String.toList_ofList]; exact bigInteger?_of_integer? (integer?_render typed)
    | bigUnsigned n => rw [render, String.toList_ofList]; exact bigInteger?_render_natural typed
    | float | bool | text | date | dateTime | uuid => exact typed.elim
  | boolean =>
    cases value with
    | bool b => exact boolean?_render b
    | int | bigUnsigned | float | text | date | dateTime | uuid => exact typed.elim
  | date =>
    obtain ⟨d, found, rfl⟩ := Option.map_eq_some_iff.mp read
    rw [render, String.toList_ofList, ofText?,
      Calendar.date?_render (Calendar.inRange_of_date? found), Option.map_some]
  | dateTime =>
    obtain ⟨t, found, rfl⟩ := Option.map_eq_some_iff.mp read
    rw [render, String.toList_ofList, ofText?,
      Calendar.dateTime?_render (Calendar.inRange_of_dateTime? found), Option.map_some]
  | uuid =>
    obtain ⟨u, -, rfl⟩ := Option.map_eq_some_iff.mp read
    rw [render, String.toList_ofList, ofText?, Uuid.ofText?_render, Option.map_some]
  | string | other =>
    obtain rfl := Option.some.inj read
    simp [ofText?, render]

theorem toList_of_ofText?_eq_text {w : String} (read : ofText? fieldType s = some (.text w)) :
    w.toList = s := by
  have typed := hasType_of_ofText? read
  cases fieldType with
  | string | other =>
    obtain rfl := Scalar.text.inj (Option.some.inj read)
    exact String.toList_ofList
  | integer | bigInteger | float | boolean | date | dateTime | uuid => exact typed.elim

theorem isPart_render (notFloat : fieldType ≠ .float) (read : ofText? fieldType s = some value)
    (part : IsPart s) : IsPart value.render.toList := by
  have typed := hasType_of_ofText? read
  cases value with
  | int n => rw [render, String.toList_ofList]; exact .of_solid (Decimal.solid_render n)
  | bigUnsigned n => rw [render, String.toList_ofList]; exact .of_solid (Decimal.solid_render n)
  | bool b =>
    have plain : (renderBool b).toList.all (fun c => decide (Solid c)) = true := by
      cases b <;> decide
    exact .of_solid fun c member => of_decide_eq_true (List.all_eq_true.mp plain c member)
  | text w => exact (toList_of_ofText?_eq_text read).symm ▸ part
  | date d => rw [render, String.toList_ofList]; exact .of_solid d.solid_render
  | dateTime t =>
    rw [render, String.toList_ofList]
    exact .of_ends (by simp [Calendar.Date.render]) (by simp [Calendar.Time.render])
      t.date.solid_render t.time.solid_render
  | uuid u => rw [render, String.toList_ofList]; exact .of_solid u.solid_render
  | float x =>
    cases fieldType with
    | float => exact absurd rfl notFloat
    | integer | bigInteger | boolean | string | date | dateTime | uuid | other => exact typed.elim

theorem eq_nil_of_render_eq_nil (notFloat : fieldType ≠ .float)
    (read : ofText? fieldType s = some value) (empty : value.render.toList = []) : s = [] := by
  have again := ofText?_render notFloat read
  rw [empty] at again
  cases fieldType with
  | float => exact absurd rfl notFloat
  | string | other =>
    obtain rfl := Option.some.inj again
    exact (toList_of_ofText?_eq_text read).symm
  | integer | bigInteger | boolean | date | dateTime | uuid => exact nomatch again

end Scalar

end QueryFilter
