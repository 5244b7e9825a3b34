import Mathlib.Data.List.Forall2
import QueryFilter.Proofs.Trimming
import QueryFilter.Proofs.Typing

/-!
# Decoding by parts

The operators that read values do so by one law (`decode_eq_ofParts`): the text is cut at its
commas, each part is trimmed and read as the type of the field, and then the values are counted. A
single value is no special case of it. So the first part that is no value decides, and only then the
number of parts (`ofParts_eq_error_iff`).
-/

namespace QueryFilter

/-- Whether the operator reads its text as values of the field's type. -/
def Operator.readsValues : Operator → Bool
  | .isNull | .isNotNull | .sort | .like => false
  | .eq | .neq | .gt | .gte | .lt | .lte | .between | .within | .notWithin => true

/-- Whether the operator has no use for so many values. -/
def Operator.Miscounts (op : Operator) (count : Nat) : Prop :=
  (op = .between ∧ count ≠ 2) ∨ (op ∈ [.gt, .gte, .lt, .lte] ∧ 1 < count)

/-- The same complaint, where it is about the whole text, about another text. -/
def ValueError.about (text : String) : ValueError → ValueError
  | type fieldType value => type fieldType value
  | shape op _ => shape op text

namespace FilterValue

/-- The first of the parts that is no value of the type. -/
def unread? (fieldType : FieldType) (parts : List (List Char)) : Option (List Char) :=
  parts.find? fun part => (Scalar.ofText? fieldType part).isNone

/-- The values are those of the parts, one for each. -/
def Reads (fieldType : FieldType) : List (List Char) → List Scalar → Prop :=
  List.Forall₂ fun part value => Scalar.ofText? fieldType part = some value

theorem Reads.length_eq {fieldType : FieldType} {parts : List (List Char)} {values : List Scalar}
    (reads : Reads fieldType parts values) : parts.length = values.length :=
  List.Forall₂.length_eq reads

theorem Reads.ne_nil {fieldType : FieldType} {parts : List (List Char)} {values : List Scalar}
    (reads : Reads fieldType parts values) (nonempty : parts ≠ []) : values ≠ [] := by
  cases reads with
  | nil => exact absurd rfl nonempty
  | cons => exact List.cons_ne_nil _ _

/-- What an operator makes of values, of which there is at least one. -/
def ofScalars (op : Operator) (text : String) : List Scalar → Except ValueError FilterValue
  | [value] => ofSingle op text value
  | values => ofSeveral op text values

def ofParts (fieldType : FieldType) (op : Operator) (text : String) (parts : List (List Char)) :
    Except ValueError FilterValue :=
  if parts = [[]] then ofEmpty fieldType op
  else (parts.mapM (coerce fieldType)).bind (ofScalars op text)

/-! ### Reading the parts -/

theorem mapM_coerce_eq_ok_iff {fieldType : FieldType} {parts : List (List Char)}
    {values : List Scalar} :
    parts.mapM (coerce fieldType) = .ok values ↔ Reads fieldType parts values := by
  simp only [Except.mapM_eq_ok_iff, coerce_eq_ok_iff, Reads]

theorem mapM_coerce_eq_error_iff {fieldType : FieldType} {parts : List (List Char)}
    {error : ValueError} :
    parts.mapM (coerce fieldType) = .error error ↔
      ∃ part, unread? fieldType parts = some part ∧
        error = .type fieldType (String.ofList part) := by
  induction parts with
  | nil => simp [unread?, pure, Except.pure]
  | cons part rest ih =>
    rw [List.mapM_cons, unread?, List.find?_cons]
    cases read : Scalar.ofText? fieldType part with
    | none => simp [coerce, read, bind, Except.bind, eq_comm]
    | some value =>
      rw [coerce_eq_ok_iff.mpr read, Option.isNone_some]
      refine Iff.trans ?_ ih
      cases rest.mapM (coerce fieldType) <;> simp [bind, Except.bind, pure, Except.pure]

/-! ### Counting the values -/

theorem scalars_of_ofScalars {op : Operator} {text : String} {values : List Scalar}
    {result : FilterValue} (made : ofScalars op text values = .ok result) :
    result.scalars = values := by
  unfold ofScalars at made
  split at made
  · exact scalars_of_ofSingle made
  · exact scalars_of_ofSeveral made

theorem ofScalars_eq_ofSeveral {op : Operator} {text : String} {values : List Scalar}
    (several : values.length ≠ 1) : ofScalars op text values = ofSeveral op text values := by
  unfold ofScalars
  split
  · exact absurd rfl several
  · rfl

theorem eq_shape_of_ofScalars {op : Operator} {text : String} {values : List Scalar}
    {error : ValueError} (failed : ofScalars op text values = .error error) :
    error = .shape op text := by
  unfold ofScalars at failed
  split at failed
  · unfold ofSingle at failed
    split at failed <;> cases failed <;> rfl
  · unfold ofSeveral at failed
    split at failed <;> cases failed
    rfl

theorem exists_ofScalars_iff {op : Operator} (reads : op.readsValues = true) (text : String)
    {values : List Scalar} (nonempty : values ≠ []) :
    (∃ result, ofScalars op text values = .ok result) ↔ ¬ op.Miscounts values.length := by
  cases op with
  | isNull | isNotNull | sort | like => exact nomatch reads
  | eq | neq | gt | gte | lt | lte | between | within | notWithin =>
    match values, nonempty with
    | [value], _ => simp [ofScalars, ofSingle, Operator.arity, Operator.Miscounts]
    | [low, high], _ => simp [ofScalars, ofSeveral, Operator.Miscounts]
    | low :: high :: next :: more, _ => simp [ofScalars, ofSeveral, Operator.Miscounts]

theorem ofScalars_eq_error_iff {op : Operator} (reads : op.readsValues = true) {text : String}
    {values : List Scalar} (nonempty : values ≠ []) {error : ValueError} :
    ofScalars op text values = .error error ↔
      op.Miscounts values.length ∧ error = .shape op text := by
  have succeeds := exists_ofScalars_iff reads text nonempty
  cases made : ofScalars op text values with
  | ok result =>
    have suits := succeeds.mp ⟨result, made⟩
    simp [suits]
  | error failure =>
    have miscounts : op.Miscounts values.length := by
      by_contra suits
      obtain ⟨result, other⟩ := succeeds.mpr suits
      exact nomatch made.symm.trans other
    obtain rfl := eq_shape_of_ofScalars made
    simp [miscounts, eq_comm]

theorem ofScalars_about (op : Operator) (text other : String) (values : List Scalar) :
    ofScalars op other values = (ofScalars op text values).mapError (.about other) := by
  unfold ofScalars
  split
  · unfold ofSingle
    split <;> rfl
  · unfold ofSeveral
    split <;> rfl

/-! ### The law -/

theorem parts_ne_nil (s : List Char) : parts s ≠ [] := by
  simpa [parts] using Text.pieces_ne_nil ',' s

@[simp] theorem parts_trim (s : List Char) : parts (Text.trim s) = parts s :=
  Text.map_trim_pieces_trim rfl s

theorem parts_eq_blank_iff {s : List Char} : parts s = [[]] ↔ Text.trim s = [] :=
  Text.map_trim_pieces_eq_blank_iff rfl

@[simp] theorem length_parts (s : List Char) : (parts s).length = s.count ',' + 1 := by
  rw [parts, List.length_map, Text.length_pieces]

theorem parts_of_not_mem {s : List Char} (single : ',' ∉ s) : parts s = [Text.trim s] := by
  rw [parts, Text.pieces_of_not_mem single, List.map_singleton]

theorem ofText_trim {fieldType : FieldType} {op : Operator} (s : List Char) :
    ofText fieldType op (Text.trim s) =
      ((parts s).mapM (coerce fieldType)).bind (ofScalars op (String.ofList (Text.trim s))) := by
  rw [← parts_trim s]
  unfold ofText
  -- With a comma there are two parts at least, so that no case for one value is met on either side.
  split
  · rename_i several
    cases read : (parts (Text.trim s)).mapM (coerce fieldType) with
    | error error => rfl
    | ok values =>
      have count : values.length = (Text.trim s).count ',' + 1 := by
        rw [← length_parts, (mapM_coerce_eq_ok_iff.mp read).length_eq]
      have comma := List.count_pos_iff.mpr several
      exact (ofScalars_eq_ofSeveral (by omega)).symm
  · rename_i single
    rw [parts_of_not_mem single, Text.trim_trim, List.mapM_cons, List.mapM_nil]
    cases coerce fieldType (Text.trim s) <;> rfl

/-- What an operator that reads values makes of a text depends on its trimmed parts alone. -/
theorem decode_eq_ofParts {op : Operator} (reads : op.readsValues = true) (raw : String)
    (fieldType : FieldType) :
    decode raw fieldType op =
      ofParts fieldType op (Text.trimmed raw) (parts raw.toList) := by
  have law : decode raw fieldType op =
      if Text.trim raw.toList = [] then ofEmpty fieldType op
      else ofText fieldType op (Text.trim raw.toList) := by
    cases op <;> first | rfl | exact nomatch reads
  rw [law, ofParts, ofText_trim]
  simp only [parts_eq_blank_iff, Text.trimmed]

/-! ### Failures -/

theorem unread?_eq_none_iff {fieldType : FieldType} {parts : List (List Char)} :
    unread? fieldType parts = .none ↔ ∃ values, Reads fieldType parts values := by
  constructor
  · intro all
    cases read : parts.mapM (coerce fieldType) with
    | ok values => exact ⟨values, mapM_coerce_eq_ok_iff.mp read⟩
    | error error =>
      obtain ⟨part, found, -⟩ := mapM_coerce_eq_error_iff.mp read
      exact nomatch all.symm.trans found
  · rintro ⟨values, reads⟩
    cases found : unread? fieldType parts with
    | none => rfl
    | some part =>
      have failed := mapM_coerce_eq_error_iff.mpr ⟨part, found, rfl⟩
      exact nomatch failed.symm.trans (mapM_coerce_eq_ok_iff.mpr reads)

section
variable {fieldType : FieldType} {op : Operator} {text : String} {parts : List (List Char)}
  (nonblank : parts ≠ [[]])

include nonblank

theorem ofParts_eq_ok_iff {value : FilterValue} :
    ofParts fieldType op text parts = .ok value ↔
      ∃ values, Reads fieldType parts values ∧ ofScalars op text values = .ok value := by
  rw [ofParts, if_neg nonblank]
  simp only [← mapM_coerce_eq_ok_iff]
  exact Except.bind_eq_ok_iff

/-- A part that is no value comes first, and only then the number of parts. -/
theorem ofParts_eq_error_iff {error : ValueError} :
    ofParts fieldType op text parts = .error error ↔
      (∃ part, unread? fieldType parts = some part ∧
        error = .type fieldType (String.ofList part)) ∨
      ∃ values, Reads fieldType parts values ∧ ofScalars op text values = .error error := by
  rw [ofParts, if_neg nonblank, ← mapM_coerce_eq_error_iff]
  simp only [← mapM_coerce_eq_ok_iff]
  cases parts.mapM (coerce fieldType) <;> simp [Except.bind]

theorem ofParts_eq_type_iff {t : FieldType} {part : String} :
    ofParts fieldType op text parts = .error (.type t part) ↔
      t = fieldType ∧ unread? fieldType parts = some part.toList := by
  rw [ofParts_eq_error_iff nonblank]
  constructor
  · rintro (⟨found, unread, same⟩ | ⟨values, -, failed⟩)
    · obtain ⟨rfl, rfl⟩ := ValueError.type.inj same
      exact ⟨rfl, by simpa using unread⟩
    · exact nomatch eq_shape_of_ofScalars failed
  · rintro ⟨rfl, unread⟩
    exact .inl ⟨part.toList, unread, by simp⟩

theorem ofParts_eq_shape_iff (reads : op.readsValues = true) (nonempty : parts ≠ [])
    {o : Operator} {whole : String} :
    ofParts fieldType op text parts = .error (.shape o whole) ↔
      unread? fieldType parts = .none ∧ op.Miscounts parts.length ∧ o = op ∧ whole = text := by
  rw [ofParts_eq_error_iff nonblank, unread?_eq_none_iff]
  constructor
  · rintro (⟨found, -, same⟩ | ⟨values, read, failed⟩)
    · exact nomatch same
    · have count := read.length_eq
      have filled := read.ne_nil nonempty
      obtain ⟨miscounts, same⟩ := (ofScalars_eq_error_iff reads filled).mp failed
      obtain ⟨rfl, rfl⟩ := ValueError.shape.inj same
      exact ⟨⟨values, read⟩, count ▸ miscounts, rfl, rfl⟩
  · rintro ⟨⟨values, read⟩, miscounts, rfl, rfl⟩
    have count := read.length_eq
    have filled := read.ne_nil nonempty
    exact .inr ⟨values, read, (ofScalars_eq_error_iff reads filled).mpr ⟨count ▸ miscounts, rfl⟩⟩

theorem exists_ofParts_iff (reads : op.readsValues = true) (nonempty : parts ≠ []) :
    (∃ value, ofParts fieldType op text parts = .ok value) ↔
      unread? fieldType parts = .none ∧ ¬ op.Miscounts parts.length := by
  simp only [ofParts_eq_ok_iff nonblank, unread?_eq_none_iff]
  constructor
  · rintro ⟨value, values, read, made⟩
    have count := read.length_eq
    have filled := read.ne_nil nonempty
    exact ⟨⟨values, read⟩, count ▸ (exists_ofScalars_iff reads text filled).mp ⟨value, made⟩⟩
  · rintro ⟨⟨values, read⟩, suits⟩
    have count := read.length_eq
    have filled := read.ne_nil nonempty
    obtain ⟨value, made⟩ := (exists_ofScalars_iff reads text filled).mpr (count ▸ suits)
    exact ⟨value, values, read, made⟩

end

theorem exists_decode_of_not_reads {op : Operator} (free : op.readsValues = false) (raw : String)
    (fieldType : FieldType) : ∃ value, decode raw fieldType op = .ok value := by
  cases op with
  | isNull | isNotNull | sort | like => exact ⟨_, rfl⟩
  | eq | neq | gt | gte | lt | lte | between | within | notWithin => exact nomatch free

theorem map_trim_of_padded {pieces padded : List (List Char)}
    (padding : List.Forall₂ Text.Padded pieces padded) :
    padded.map Text.trim = pieces.map Text.trim := by
  induction padding with
  | nil => rfl
  | cons first _ ih => rw [List.map_cons, List.map_cons, Text.trim_padded first, ih]

theorem decode_padded {op : Operator} (reads : op.readsValues = true) {raw padded : String}
    (padding : List.Forall₂ Text.Padded (Text.pieces ',' raw.toList)
      (Text.pieces ',' padded.toList)) (fieldType : FieldType) :
    decode padded fieldType op =
      (decode raw fieldType op).mapError (.about (Text.trimmed padded)) := by
  have same : parts padded.toList = parts raw.toList := map_trim_of_padded padding
  rw [decode_eq_ofParts reads, decode_eq_ofParts reads, same, ofParts, ofParts]
  split
  · rename_i blank
    have empty : Text.trimmed padded = "" := by
      rw [Text.trimmed, parts_eq_blank_iff.mp (same.trans blank)]
    rw [empty]
    unfold ofEmpty
    split <;> rfl
  · cases read : (parts raw.toList).mapM (coerce fieldType) with
    | ok values => exact ofScalars_about ..
    | error error =>
      obtain ⟨part, -, rfl⟩ := mapM_coerce_eq_error_iff.mp read
      rfl

/-- The parts of a text that is not blank are judged in their order and before their number, and
blanks around them do not count. -/
theorem decode_errors_exact (raw : String) (fieldType : FieldType) (op : Operator) :
    (op.readsValues = false → ∃ value, decode raw fieldType op = .ok value) ∧
    (op.readsValues = true → Text.trim raw.toList ≠ [] →
      let pieces := parts (Text.trim raw.toList)
      (∀ t part, decode raw fieldType op = .error (.type t part) ↔
        t = fieldType ∧ unread? fieldType pieces = some part.toList) ∧
      (∀ o text, decode raw fieldType op = .error (.shape o text) ↔
        unread? fieldType pieces = .none ∧ op.Miscounts pieces.length ∧
          o = op ∧ text = Text.trimmed raw) ∧
      ((∃ value, decode raw fieldType op = .ok value) ↔
        unread? fieldType pieces = .none ∧ ¬ op.Miscounts pieces.length) ∧
      ∀ value, decode raw fieldType op = .ok value → Reads fieldType pieces value.scalars) ∧
    (op.readsValues = true → ∀ padded : String,
      List.Forall₂ Text.Padded (Text.pieces ',' raw.toList) (Text.pieces ',' padded.toList) →
      decode padded fieldType op =
        (decode raw fieldType op).mapError (.about (Text.trimmed padded))) := by
  refine ⟨fun free => exists_decode_of_not_reads free raw fieldType, fun reads nonblank => ?_,
    fun reads padded padding => decode_padded reads padding fieldType⟩
  have several : parts raw.toList ≠ [[]] := mt parts_eq_blank_iff.mp nonblank
  have nonempty := parts_ne_nil raw.toList
  dsimp only
  rw [parts_trim, decode_eq_ofParts reads]
  refine ⟨fun t part => ofParts_eq_type_iff several,
    fun o text => ofParts_eq_shape_iff several reads nonempty,
    exists_ofParts_iff several reads nonempty, fun value made => ?_⟩
  obtain ⟨values, read, made⟩ := (ofParts_eq_ok_iff several).mp made
  exact (scalars_of_ofScalars made).symm ▸ read

/-- A part that is no integer is named, though three parts are too many as well. -/
theorem decode_errors_exact_integers :
    Operator.readsValues .gt = true ∧ Text.trim " 1, x ,3".toList ≠ [] ∧
      decode " 1, x ,3" .integer .gt = .error (.type .integer "x") ∧
      decode " 1, 2 ,3" .integer .gt = .error (.shape .gt "1, 2 ,3") ∧
      decode "1 ,2, 3" .integer .gt =
        (decode "1,2,3" .integer .gt).mapError (.about "1 ,2, 3") := by
  have padding : List.Forall₂ Text.Padded (Text.pieces ',' "1,2,3".toList)
      (Text.pieces ',' "1 ,2, 3".toList) :=
    .cons ⟨[], [' '], rfl, List.forall_mem_nil _, List.forall_mem_singleton.mpr rfl⟩ <|
      .cons ⟨[], [], rfl, List.forall_mem_nil _, List.forall_mem_nil _⟩ <|
        .cons ⟨[' '], [], rfl, List.forall_mem_singleton.mpr rfl, List.forall_mem_nil _⟩ .nil
  refine ⟨rfl, by decide, ?_, ?_, ?_⟩
  · obtain ⟨-, judged, -⟩ := decode_errors_exact " 1, x ,3" .integer .gt
    obtain ⟨mistyped, -⟩ := judged rfl (by decide)
    exact (mistyped _ _).mpr ⟨rfl, by decide +kernel⟩
  · obtain ⟨-, judged, -⟩ := decode_errors_exact " 1, 2 ,3" .integer .gt
    obtain ⟨-, misshapen, -⟩ := judged rfl (by decide)
    exact (misshapen _ _).mpr ⟨by decide +kernel, .inr ⟨by decide, by decide⟩, rfl, by decide⟩
  · obtain ⟨-, -, padded⟩ := decode_errors_exact "1,2,3" .integer .gt
    exact padded rfl _ padding

end FilterValue

end QueryFilter
