import QueryFilter.FilterValue
import QueryFilter.Proofs.Trimming
import QueryFilter.Schema.ColumnType

/-!
# Tags of field types

A type is read back from its tag exactly if it is normal (`ofTag_tag_iff`): a type of its own must
have a trimmed tag that is no name of a known type. Reading a tag gives a normal type, and so does a
column: the description of a column type without a field type is one of a few words or a call with
parentheses, whatever names stand between them.
-/

namespace QueryFilter

@[simp] theorem Text.trimmed_trimmed (s : String) : trimmed (trimmed s) = trimmed s := by
  rw [trimmed, toList_trimmed, trim_trim]
  rfl

/-- An ASCII character at either end stays there in small letters, whatever stands between. -/
theorem Text.trim_lowercase_of_ends {first last : Char}
    (ascii : first.toNat < 128 ∧ last.toNat < 128)
    (solid : isBlank (asciiLower first) = false ∧ isBlank (asciiLower last) = false)
    (middle : List Char) :
    trim (lowercase (first :: middle ++ [last])) = lowercase (first :: middle ++ [last]) := by
  refine trim_of_ends (fun c front => ?_) fun c back => ?_
  · rw [List.cons_append, head?_lowercase_of_ascii ascii.1] at front
    obtain rfl := Option.some.inj front
    exact solid.1
  · rw [getLast?_lowercase_of_ascii ascii.2] at back
    obtain rfl := Option.some.inj back
    exact solid.2

theorem Text.mem_lowercase_parenthesis {s : List Char} (opened : '(' ∈ s) : '(' ∈ lowercase s :=
  mem_lowercase_of_ascii (c := '(') (by decide) opened

namespace FieldType

/-- Whether the type is not hidden by another one behind its tag. -/
def IsNormal (fieldType : FieldType) : Prop :=
  ∀ tag, fieldType = other tag →
    Text.trimmed tag = tag ∧ names.lookup (Text.lowercased tag) = none

theorem names_known : ∀ entry ∈ names, ∀ tag, entry.2 ≠ other tag := by
  simp [names]

theorem isNormal_of_lookup {name : String} {fieldType : FieldType}
    (found : names.lookup name = some fieldType) : fieldType.IsNormal := by
  obtain ⟨before, after, split, -⟩ := List.lookup_eq_some_iff.mp found
  have member : (name, fieldType) ∈ names := by
    rw [split]
    exact List.mem_append_right _ List.mem_cons_self
  exact fun tag same => absurd same (names_known _ member tag)

theorem ofTag_of_lookup {text : String} {fieldType : FieldType}
    (found : names.lookup (Text.lowercased (Text.trimmed text)) = some fieldType) :
    ofTag text = fieldType := by
  simp only [ofTag, found, Option.getD_some]

theorem ofTag_of_unknown {text : String}
    (unknown : names.lookup (Text.lowercased (Text.trimmed text)) = none) :
    ofTag text = other (Text.trimmed text) := by
  simp only [ofTag, unknown, Option.getD_none]

theorem isNormal_ofTag (text : String) : (ofTag text).IsNormal := by
  cases found : names.lookup (Text.lowercased (Text.trimmed text)) with
  | some fieldType =>
    rw [ofTag_of_lookup found]
    exact isNormal_of_lookup found
  | none =>
    rw [ofTag_of_unknown found]
    rintro tag ⟨⟩
    exact ⟨Text.trimmed_trimmed text, found⟩

theorem ofTag_tag_of_isNormal {fieldType : FieldType} (normal : fieldType.IsNormal) :
    ofTag fieldType.tag = fieldType := by
  cases fieldType with
  | other name =>
    obtain ⟨trimmed, unknown⟩ := normal name rfl
    rw [← trimmed] at unknown
    rw [tag, ofTag_of_unknown unknown, trimmed]
  | integer | bigInteger | float | boolean | string | date | dateTime | uuid => decide +kernel

theorem ofTag_tag_iff {fieldType : FieldType} :
    ofTag fieldType.tag = fieldType ↔ fieldType.IsNormal := by
  refine ⟨fun same => ?_, ofTag_tag_of_isNormal⟩
  rw [← same]
  exact isNormal_ofTag fieldType.tag

example : ofTag (other " INT ").tag = integer := by decide +kernel

/-! ### Descriptions -/

theorem names_without_parenthesis : ∀ entry ∈ names, '(' ∉ entry.1.toList := by
  have checked : names.all (fun entry => !entry.1.toList.contains '(') = true := by decide
  intro entry member
  simpa using List.all_eq_true.mp checked entry member

theorem lookup_of_parenthesis {name : String} (call : '(' ∈ name.toList) :
    names.lookup name = none := by
  refine List.lookup_eq_none_iff.mpr fun entry member => bne_iff_ne.mpr fun same => ?_
  exact names_without_parenthesis entry member (same ▸ call)

def startsSolid (name : String) : Bool :=
  name.toList.head?.any fun c => c.toNat < 128 && !Text.isBlank (Text.asciiLower c)

theorem isNormal_call {name : String} (starts : startsSolid name = true) (arguments : String) :
    (other (Text.lowercased (describeCall name arguments))).IsNormal := by
  rintro tag ⟨⟩
  simp only [startsSolid, Option.any_eq_true, Bool.and_eq_true, decide_eq_true_eq,
    Bool.not_eq_true'] at starts
  obtain ⟨first, front, ascii, solid⟩ := starts
  obtain ⟨rest, split⟩ := List.head?_eq_some_iff.mp front
  have whole : (describeCall name arguments).toList =
      first :: (rest ++ '(' :: arguments.toList) ++ [')'] := by
    simp [describeCall, split]
  have trimmed : Text.trim (Text.lowercase (describeCall name arguments).toList) =
      Text.lowercase (describeCall name arguments).toList := by
    rw [whole]
    exact Text.trim_lowercase_of_ends ⟨ascii, by decide⟩ ⟨solid, by decide⟩ _
  refine ⟨?_, lookup_of_parenthesis ?_⟩
  · rw [Text.trimmed, Text.toList_lowercased, trimmed, Text.lowercased]
  · rw [Text.toList_lowercased, Text.toList_lowercased]
    refine Text.mem_lowercase_parenthesis (Text.mem_lowercase_parenthesis ?_)
    simp [whole]

end FieldType

theorem ColumnType.isNormal_fieldType (column : ColumnType) : column.fieldType.IsNormal := by
  cases column with
  | char | string | text | enumeration | tinyInteger | smallInteger | integer | bigInteger
  | tinyUnsigned | smallUnsigned | unsigned | bigUnsigned | float | double | dateTime | timestamp
  | timestampWithTimeZone | date | boolean | uuid => exact nofun
  | blob | time | year | json | jsonBinary | cidr | inet | macAddress | labelTree =>
    rintro tag ⟨⟩
    exact ⟨by decide +kernel, by decide +kernel⟩
  | decimal | interval | binary | varBinary | bit | varBit | money | custom | array | vector =>
    exact FieldType.isNormal_call (by decide) _

/-! ### Tags -/

namespace FieldType

/-- A type that was read from a text or given to a column is read again from its tag. -/
theorem tags_are_normal_forms :
    (∀ text, ofTag (ofTag text).tag = ofTag text ∧
      ∀ raw op, FilterValue.decode raw (ofTag (ofTag text).tag) op =
        FilterValue.decode raw (ofTag text) op) ∧
    ∀ column : ColumnType, ofTag column.fieldType.tag = column.fieldType ∧
      ∀ raw op, FilterValue.decode raw (ofTag column.fieldType.tag) op =
        FilterValue.decode raw column.fieldType op := by
  refine ⟨fun text => ?_, fun column => ?_⟩
  · have same := ofTag_tag_iff.mpr (isNormal_ofTag text)
    exact ⟨same, fun raw op => by rw [same]⟩
  · have same := ofTag_tag_iff.mpr column.isNormal_fieldType
    exact ⟨same, fun raw op => by rw [same]⟩

end FieldType

end QueryFilter
