import QueryFilter.Proofs.Decoding
import QueryFilter.Proofs.Document
import QueryFilter.Proofs.Steps

/-!
# Decoded values fit their operators

Whatever is decoded for an operator has an instruction, and it is the one that suits the operator
and the number of parts (`exists_suiting_instruction`). So resolution never falls back, no list that
a filter compares with is empty, and no condition of a statement is a constant that stands for one
(`decoded_values_fit`).
-/

namespace QueryFilter

open FilterValue (Reads parts)

/-- The instructions that an operator may come to for the trimmed text `s`: only `sort` orders, and
a list comes from a list operator or from equality with several parts. -/
def Instruction.Suits (fieldType : FieldType) (s : List Char) : Operator → Instruction → Prop
  | .sort, .order direction => direction = .ofText (String.ofList s)
  | .isNull, .restrict .isNull | .isNotNull, .restrict .isNotNull => True
  | .like, .restrict (.like pattern) => pattern = String.ofList ('%' :: s ++ ['%'])
  | .between, .restrict (.between low high) => Reads fieldType (parts s) [low, high]
  | .eq, .restrict (.eq value) | .neq, .restrict (.neq value) | .gt, .restrict (.gt value)
  | .gte, .restrict (.gte value) | .lt, .restrict (.lt value) | .lte, .restrict (.lte value) =>
    ',' ∉ s ∧ Reads fieldType (parts s) [value]
  | .eq, .restrict (.within values) | .neq, .restrict (.notWithin values) =>
    ',' ∈ s ∧ Reads fieldType (parts s) values
  | .within, .restrict (.within values) | .notWithin, .restrict (.notWithin values) =>
    Reads fieldType (parts s) values
  | _, _ => False

/-- Membership in a list or absence from it, where the list is empty. -/
def Comparison.hasNoItems : Comparison → Bool
  | .within values | .notWithin values => values.isEmpty
  | _ => false

/-! ### Instructions -/

section
variable {fieldType : FieldType} {op : Operator} {s : List Char} {text : String}

theorem suits_of_ofSingle {value : Scalar} {result : FilterValue} (single : ',' ∉ s)
    (read : Reads fieldType (parts s) [value])
    (made : FilterValue.ofSingle op text value = .ok result) (reads : op.readsValues = true) :
    ∃ instruction, Instruction.of? op result = some instruction ∧
      instruction.Suits fieldType s op := by
  cases op with
  | isNull | isNotNull | sort | like => exact nomatch reads
  | between => exact nomatch made
  | eq | neq | gt | gte | lt | lte =>
    obtain rfl := Except.ok.inj made
    exact ⟨_, rfl, single, read⟩
  | within | notWithin =>
    obtain rfl := Except.ok.inj made
    exact ⟨_, rfl, read⟩

theorem suits_of_ofSeveral {values : List Scalar} {result : FilterValue} (several : ',' ∈ s)
    (read : Reads fieldType (parts s) values)
    (made : FilterValue.ofSeveral op text values = .ok result) :
    ∃ instruction, Instruction.of? op result = some instruction ∧
      instruction.Suits fieldType s op := by
  unfold FilterValue.ofSeveral at made
  split at made
  · obtain rfl := Except.ok.inj made
    exact ⟨_, rfl, read⟩
  · obtain rfl := Except.ok.inj made
    exact ⟨_, rfl, read⟩
  · obtain rfl := Except.ok.inj made
    exact ⟨_, rfl, read⟩
  · obtain rfl := Except.ok.inj made
    exact ⟨_, rfl, several, read⟩
  · obtain rfl := Except.ok.inj made
    exact ⟨_, rfl, several, read⟩
  · exact nomatch made

theorem suits_of_ofScalars {values : List Scalar} {result : FilterValue}
    (read : Reads fieldType (parts s) values)
    (made : FilterValue.ofScalars op text values = .ok result) (reads : op.readsValues = true) :
    ∃ instruction, Instruction.of? op result = some instruction ∧
      instruction.Suits fieldType s op := by
  have count := read.length_eq
  rw [FilterValue.length_parts] at count
  unfold FilterValue.ofScalars at made
  split at made
  · have single : ',' ∉ s := List.count_eq_zero.mp (by simpa using count)
    exact suits_of_ofSingle single read made reads
  · rename_i several
    have comma : ',' ∈ s := by
      by_contra single
      rw [List.count_eq_zero.mpr single] at count
      obtain ⟨value, rfl⟩ := List.length_eq_one_iff.mp count.symm
      exact several value rfl
    exact suits_of_ofSeveral comma read made

theorem suits_of_ofEmpty {result : FilterValue}
    (made : FilterValue.ofEmpty fieldType op = .ok result) (reads : op.readsValues = true) :
    ∃ instruction, Instruction.of? op result = some instruction ∧
      instruction.Suits fieldType [] op := by
  unfold FilterValue.ofEmpty at made
  split at made
  · rename_i textual
    obtain rfl := Except.ok.inj made
    have read : Reads fieldType (parts []) [.text ""] := by
      refine .cons ?_ .nil
      cases fieldType <;> first | rfl | exact nomatch textual.1
    cases op with
    | isNull | isNotNull | sort | like => exact nomatch reads
    | between | within | notWithin => exact nomatch textual.2
    | eq | neq | gt | gte | lt | lte => exact ⟨_, rfl, List.not_mem_nil, read⟩
  · exact nomatch made

end

theorem exists_suiting_instruction {raw : String} {fieldType : FieldType} {op : Operator}
    {value : FilterValue} (decoded : FilterValue.decode raw fieldType op = .ok value) :
    ∃ instruction, Instruction.of? op value = some instruction ∧
      instruction.Suits fieldType (Text.trim raw.toList) op := by
  cases reads : op.readsValues with
  | false =>
    cases op with
    | isNull | isNotNull =>
      obtain rfl := Except.ok.inj decoded
      exact ⟨_, rfl, trivial⟩
    | sort =>
      obtain rfl := Except.ok.inj decoded
      refine ⟨_, rfl, ?_⟩
      simp [Instruction.Suits, SortDirection.ofText]
    | like =>
      obtain rfl := Except.ok.inj decoded
      exact ⟨_, rfl, rfl⟩
    | eq | neq | gt | gte | lt | lte | between | within | notWithin => exact nomatch reads
  | true =>
    rw [FilterValue.decode_eq_ofParts reads, ← FilterValue.parts_trim] at decoded
    by_cases blank : parts (Text.trim raw.toList) = [[]]
    · rw [FilterValue.ofParts, if_pos blank] at decoded
      have empty : Text.trim raw.toList = [] := by
        simpa using FilterValue.parts_eq_blank_iff.mp blank
      rw [empty]
      exact suits_of_ofEmpty decoded reads
    · obtain ⟨values, read, made⟩ := (FilterValue.ofParts_eq_ok_iff blank).mp decoded
      exact suits_of_ofScalars read made reads

theorem hasItems_of_suits {fieldType : FieldType} {s : List Char} {op : Operator}
    {comparison : Comparison} (suits : (Instruction.restrict comparison).Suits fieldType s op) :
    comparison.hasNoItems = false := by
  have listed {values : List Scalar} (read : Reads fieldType (parts s) values) :
      values.isEmpty = false := by
    simpa using read.ne_nil (FilterValue.parts_ne_nil s)
  cases comparison with
  | within values =>
    cases op with
    | eq => exact listed suits.2
    | within => exact listed suits
    | _ => exact suits.elim
  | notWithin values =>
    cases op with
    | neq => exact listed suits.2
    | notWithin => exact listed suits
    | _ => exact suits.elim
  | _ => rfl

/-! ### Resolution -/

theorem shape_of_resolveValue {field column raw : String} {fieldType : FieldType} {op o : Operator}
    {text : String}
    (skipped : resolveValue field column fieldType op raw = .ok (.skipped (.valueShape o text))) :
    FilterValue.decode raw fieldType op = .error (.shape o text) := by
  unfold resolveValue at skipped
  split at skipped
  · exact nomatch skipped
  · rename_i failed
    obtain ⟨rfl, rfl⟩ := SkipReason.valueShape.inj (Resolution.skipped.inj (Except.ok.inj skipped))
    exact failed
  · rename_i value decoded
    obtain ⟨instruction, found, -⟩ := exists_suiting_instruction decoded
    rw [found] at skipped
    exact nomatch skipped

theorem shape_of_resolveOperator {schema : Schema} {key : FilterKey} {metadata : FieldMetadata}
    {raw text : String} {o : Operator}
    (skipped : resolveOperator schema key metadata raw = .ok (.skipped (.valueShape o text))) :
    ∃ op column fieldType, key.operator = .enabled op ∧
      metadata.column schema = .ok (column, fieldType) ∧
      FilterValue.decode raw fieldType op = .error (.shape o text) := by
  unfold resolveOperator at skipped
  split at skipped
  · exact nomatch skipped
  · exact nomatch skipped
  · rename_i op enabled
    split at skipped
    · exact nomatch skipped
    · rename_i column fieldType found
      exact ⟨op, column, fieldType, enabled, found, shape_of_resolveValue skipped⟩

theorem shape_of_resolveFilter {schema : Schema} {config : FilterConfig} {entity : Entity}
    {key raw text : String} {o : Operator}
    (skipped : resolveFilter schema config entity key raw = .ok (.skipped (.valueShape o text))) :
    let decoded := FilterKey.decode config.aliases config.operators key
    ∃ op metadata column fieldType, decoded.operator = .enabled op ∧
      entity.metadata? decoded.field = some metadata ∧
      metadata.column schema = .ok (column, fieldType) ∧
      FilterValue.decode raw fieldType op = .error (.shape o text) := by
  unfold resolveFilter at skipped
  dsimp only at skipped
  split at skipped
  · exact nomatch skipped
  · split at skipped
    · exact nomatch skipped
    · rename_i found
      split at skipped
      · obtain ⟨op, column, fieldType, enabled, resolved, failed⟩ :=
          shape_of_resolveOperator skipped
        exact ⟨op, _, column, fieldType, enabled, found, resolved, failed⟩
      · exact nomatch skipped
    · rename_i found
      obtain ⟨op, column, fieldType, enabled, resolved, failed⟩ := shape_of_resolveOperator skipped
      exact ⟨op, _, column, fieldType, enabled, found, resolved, failed⟩

/-! ### Statements -/

theorem Passes.suits {schema : Schema} {config : FilterConfig} {entity : Entity} {key raw : String}
    {filter : ResolvedFilter} (passes : Passes schema config entity key raw filter) :
    ∃ fieldType, filter.instruction.Suits fieldType (Text.trim raw.toList) filter.operator := by
  obtain ⟨metadata, fieldType, value, -, -, -, decoded, found⟩ := passes.compared
  obtain ⟨instruction, same, suits⟩ := exists_suiting_instruction decoded
  obtain rfl := Option.some.inj (same.symm.trans found)
  exact ⟨fieldType, suits⟩

theorem Passes.hasItems {schema : Schema} {config : FilterConfig} {entity : Entity}
    {key raw : String} {filter : ResolvedFilter} {comparison : Comparison}
    (passes : Passes schema config entity key raw filter)
    (restricts : filter.instruction = .restrict comparison) : comparison.hasNoItems = false := by
  obtain ⟨fieldType, suits⟩ := passes.suits
  exact hasItems_of_suits (restricts ▸ suits)

theorem hasItems_of_mem_walk {schema : Schema} {config : FilterConfig} {filters : FilterMap}
    {entity : Entity} {tableAlias : String} {visit : Visit} {predicate : Predicate}
    (member : visit ∈ walk schema config filters entity tableAlias)
    (step : visit.step? = some (.restrict predicate)) :
    predicate.comparison.hasNoItems = false := by
  obtain ⟨path, key, raw, context, filter, -, -, resolved, taken⟩ :=
    filter_of_mem_walk ⟨entity, tableAlias⟩ member step
  exact (resolveFilter_eq_applied_iff.mp resolved).hasItems (filter.instruction_of_step taken)

theorem Sql.Condition.ofPredicate_ne_constant {predicate : Predicate}
    (items : predicate.comparison.hasNoItems = false) (left right : Parameter) :
    ofPredicate predicate ≠ .constant left right := by
  obtain ⟨column, comparison⟩ := predicate
  cases comparison with
  | within values | notWithin values =>
    have nonempty : values ≠ [] := by simpa [Comparison.hasNoItems] using items
    simp [ofPredicate, within, notWithin, nonempty]
  | _ => exact Condition.noConfusion

theorem condition_of_applyTo {a : Applicator} {select : Sql.Select} {filters : FilterMap}
    {condition : Sql.Condition} (member : condition ∈ (a.applyTo select filters).query.conditions) :
    condition ∈ select.conditions ∨ ∀ left right, condition ≠ .constant left right := by
  unfold Applicator.applyTo at member
  split at member
  · exact .inl member
  · rw [applyMap_eq_ofVisits, Outcome.ofVisits, Sql.Select.addAll_eq] at member
    refine (List.mem_append.mp member).imp_right fun added left right => ?_
    obtain ⟨predicate, listed, rfl⟩ := List.mem_map.mp added
    obtain ⟨step, taken, restricts⟩ := List.mem_filterMap.mp listed
    obtain ⟨visit, visited, made⟩ := List.mem_filterMap.mp taken
    have same := QueryStep.predicate?_eq_some_iff.mp restricts
    have met := List.takeWhile_subset _ visited
    exact Sql.Condition.ofPredicate_ne_constant (hasItems_of_mem_walk met (same ▸ made)) left right

/-- Whatever is decoded has an instruction that suits its operator, and no condition that filters
add stands for an empty list. -/
theorem decoded_values_fit :
    (∀ raw fieldType op value, FilterValue.decode raw fieldType op = .ok value →
      ∃ instruction, Instruction.of? op value = some instruction ∧
        instruction.Suits fieldType (Text.trim raw.toList) op ∧
        ∀ comparison, instruction = .restrict comparison → comparison.hasNoItems = false) ∧
    (∀ schema config entity key raw o text,
      resolveFilter schema config entity key raw = .ok (.skipped (.valueShape o text)) →
      let decoded := FilterKey.decode config.aliases config.operators key
      ∃ op metadata column fieldType, decoded.operator = .enabled op ∧
        entity.metadata? decoded.field = some metadata ∧
        metadata.column schema = .ok (column, fieldType) ∧
        FilterValue.decode raw fieldType op = .error (.shape o text)) ∧
    ∀ (a : Applicator) (select : Sql.Select) (filters : FilterMap),
      ∀ condition ∈ (a.applyTo select filters).query.conditions,
        condition ∈ select.conditions ∨ ∀ left right, condition ≠ .constant left right := by
  refine ⟨fun raw fieldType op value decoded => ?_,
    fun schema config entity key raw o text => shape_of_resolveFilter,
    fun a select filters condition => condition_of_applyTo⟩
  obtain ⟨instruction, found, suits⟩ := exists_suiting_instruction decoded
  exact ⟨instruction, found, suits, fun comparison same => hasItems_of_suits (same ▸ suits)⟩

/-- Equality with several parts is membership in the list of them, an empty one included. -/
theorem decoded_values_fit_list :
    let value := FilterValue.list [.text "a", .text "", .text "b"]
    FilterValue.decode " a,,b" .string .eq = .ok value ∧
      ∃ instruction, Instruction.of? .eq value = some instruction ∧
        instruction.Suits .string "a,,b".toList .eq ∧
        ∀ comparison, instruction = .restrict comparison → comparison.hasNoItems = false := by
  intro value
  have decoded : FilterValue.decode " a,,b" .string .eq = .ok value := by decide +kernel
  obtain ⟨instruction, found, suits, items⟩ := decoded_values_fit.1 _ _ _ _ decoded
  have trimmed : Text.trim " a,,b".toList = "a,,b".toList := by decide
  exact ⟨decoded, instruction, found, trimmed ▸ suits, items⟩

end QueryFilter
