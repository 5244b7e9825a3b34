import QueryFilter.Proofs.Except
import QueryFilter.Proofs.IntegerText
import QueryFilter.Proofs.Resolution

/-!
# Types of values

A text that is read at a type gives a value of that type, and so do all values that an operator
other than `like` makes of one.
-/

namespace QueryFilter

/-- Whether a scalar is a value of the type. Integers beyond the signed range are `bigUnsigned`. -/
def Scalar.HasType : Scalar → FieldType → Prop
  | .int n, .integer | .int n, .bigInteger => leastInt ≤ n ∧ n ≤ greatestInt
  | .bigUnsigned n, .bigInteger => greatestInt < n ∧ n ≤ greatestUnsigned
  | .float _, .float | .bool _, .boolean | .date _, .date | .dateTime _, .dateTime
  | .uuid _, .uuid | .text _, .string | .text _, .other _ => True
  | _, _ => False

theorem Scalar.hasType_ofInteger {n : Int} (range : leastInt ≤ n ∧ n ≤ greatestUnsigned) :
    (ofInteger n).HasType .bigInteger := by
  unfold ofInteger
  split
  · rename_i small
    exact ⟨range.1, small⟩
  · rename_i large
    have above : greatestInt < n := Int.not_le.mp large
    have natural : (n.toNat : Int) = n := Int.toNat_of_nonneg (by
      unfold greatestInt at above
      omega)
    have unsigned : greatestInt < (n.toNat : Int) ∧ (n.toNat : Int) ≤ greatestUnsigned := by
      rw [natural]
      exact ⟨above, range.2⟩
    exact unsigned

theorem Scalar.hasType_of_ofText? {fieldType : FieldType} {s : List Char} {value : Scalar}
    (read : Scalar.ofText? fieldType s = some value) : value.HasType fieldType := by
  cases fieldType with
  | integer =>
    obtain ⟨n, -, range, rfl⟩ := Scalar.integer?_eq_some_iff.mp read
    exact range
  | bigInteger =>
    obtain ⟨n, -, range, rfl⟩ := Scalar.bigInteger?_eq_some_iff.mp read
    exact Scalar.hasType_ofInteger range
  | boolean =>
    unfold Scalar.ofText? boolean? at read
    dsimp only at read
    split at read
    · obtain rfl := Option.some.inj read
      trivial
    · split at read
      · obtain rfl := Option.some.inj read
        trivial
      · exact nomatch read
  | float | date | dateTime | uuid =>
    obtain ⟨parsed, -, rfl⟩ := Option.map_eq_some_iff.mp read
    trivial
  | string | other =>
    obtain rfl := Option.some.inj read
    trivial

theorem Scalar.hasType_empty {fieldType : FieldType} (textual : fieldType.isText = true) :
    (Scalar.text "").HasType fieldType := by
  cases fieldType <;> trivial

namespace FilterValue

/-- The scalars of a value, in order. -/
def scalars : FilterValue → List Scalar
  | none | sort _ => []
  | scalar value => [value]
  | list values => values
  | pair low high => [low, high]

theorem hasType_of_coerce {fieldType : FieldType} {s : List Char} {value : Scalar}
    (read : coerce fieldType s = .ok value) : value.HasType fieldType := by
  unfold coerce at read
  split at read
  · rename_i found
    obtain rfl := Except.ok.inj read
    exact Scalar.hasType_of_ofText? found
  · exact nomatch read

theorem hasType_of_mapM {fieldType : FieldType} {parts : List (List Char)} {values : List Scalar}
    (read : parts.mapM (coerce fieldType) = .ok values) :
    ∀ v ∈ values, v.HasType fieldType := by
  rw [Except.mapM_eq_ok_iff] at read
  induction read with
  | nil => exact List.forall_mem_nil _
  | cons first _ ih => exact List.forall_mem_cons.mpr ⟨hasType_of_coerce first, ih⟩

theorem scalars_of_ofSingle {op : Operator} {text : String} {value : Scalar} {result : FilterValue}
    (made : ofSingle op text value = .ok result) : result.scalars = [value] := by
  unfold ofSingle at made
  split at made
  · obtain rfl := Except.ok.inj made
    rfl
  · obtain rfl := Except.ok.inj made
    rfl
  · exact nomatch made
  · exact nomatch made

theorem scalars_of_ofSeveral {op : Operator} {text : String} {values : List Scalar}
    {result : FilterValue} (made : ofSeveral op text values = .ok result) :
    result.scalars = values := by
  unfold ofSeveral at made
  split at made
  all_goals cases made
  all_goals rfl

theorem hasType_of_ofText {fieldType : FieldType} {op : Operator} {s : List Char}
    {value : FilterValue} (read : ofText fieldType op s = .ok value) :
    ∀ v ∈ value.scalars, v.HasType fieldType := by
  unfold ofText at read
  split at read
  · obtain ⟨values, coerced, read⟩ := Except.bind_eq_ok_iff.mp read
    rw [scalars_of_ofSeveral read]
    exact hasType_of_mapM coerced
  · obtain ⟨single, coerced, read⟩ := Except.bind_eq_ok_iff.mp read
    rw [scalars_of_ofSingle read]
    intro v member
    rw [List.mem_singleton.mp member]
    exact hasType_of_coerce coerced

theorem hasType_of_ofEmpty {fieldType : FieldType} {op : Operator} {value : FilterValue}
    (read : ofEmpty fieldType op = .ok value) : ∀ v ∈ value.scalars, v.HasType fieldType := by
  unfold ofEmpty at read
  split at read
  · rename_i textual
    obtain rfl := Except.ok.inj read
    intro v member
    rw [List.mem_singleton.mp member]
    exact Scalar.hasType_empty textual.1
  · exact nomatch read

theorem hasType_of_decode {raw : String} {fieldType : FieldType} {op : Operator}
    {value : FilterValue} (read : decode raw fieldType op = .ok value) (comparing : op ≠ .like) :
    ∀ v ∈ value.scalars, v.HasType fieldType := by
  unfold decode at read
  dsimp only at read
  split at read
  · obtain rfl := Except.ok.inj read
    simp [scalars]
  · obtain rfl := Except.ok.inj read
    simp [scalars]
  · obtain rfl := Except.ok.inj read
    simp [scalars]
  · exact absurd rfl comparing
  · split at read
    · exact hasType_of_ofEmpty read
    · exact hasType_of_ofText read

end FilterValue

end QueryFilter
