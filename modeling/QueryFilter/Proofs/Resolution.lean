import QueryFilter.Validation

/-!
# What resolution decides

An entry with a text is applied exactly if it passes every check (`resolveFilter_eq_applied_iff`),
and resolution fails only at a hole in the schema or at a value of the wrong type
(`failure_of_resolveFilter`).
-/

namespace QueryFilter

/-! ### Failures -/

/-- The ways in which resolution fails: a hole in the schema, or a value of the wrong type. -/
inductive ResolutionFailure : FilterError → Prop
  | hole (entity : String) : ResolutionFailure (.unknownEntity entity)
  | mistyped (field : String) (fieldType : FieldType) (value : String) :
    ResolutionFailure (.invalidValue field fieldType value)

theorem eq_of_declared_error {schema : Schema} {name : String} {error : FilterError}
    (h : schema.declared name = .error error) : error = .unknownEntity name := by
  unfold Schema.declared at h
  split at h
  · exact nomatch h
  · exact (Except.error.inj h).symm

theorem declared_eq_ok_iff {schema : Schema} {name : String} {entity : Entity} :
    schema.declared name = .ok entity ↔ schema.entity? name = some entity := by
  unfold Schema.declared
  cases schema.entity? name with
  | none => simp
  | some other => simp

theorem failure_of_declared {schema : Schema} {name : String} {error : FilterError}
    (h : schema.declared name = .error error) : ResolutionFailure error := by
  rw [eq_of_declared_error h]
  exact .hole name

theorem declared_of_column_error {schema : Schema} {metadata : FieldMetadata} {error : FilterError}
    (h : metadata.column schema = .error error) :
    ∃ link, metadata = .association link ∧ schema.declared link.target = .error error := by
  cases metadata with
  | scalar field => exact nomatch h
  | association link =>
    simp only [FieldMetadata.column] at h
    cases declared : schema.declared link.target with
    | ok target =>
      rw [declared] at h
      exact nomatch h
    | error e =>
      rw [declared] at h
      obtain rfl := Except.error.inj h
      exact ⟨link, rfl, declared⟩

theorem failure_of_column {schema : Schema} {metadata : FieldMetadata} {error : FilterError}
    (h : metadata.column schema = .error error) : ResolutionFailure error := by
  obtain ⟨link, -, declared⟩ := declared_of_column_error h
  exact failure_of_declared declared

theorem failure_of_resolveValue {field column raw : String} {fieldType : FieldType}
    {op : Operator} {error : FilterError}
    (h : resolveValue field column fieldType op raw = .error error) : ResolutionFailure error := by
  unfold resolveValue at h
  split at h
  · obtain rfl := Except.error.inj h
    exact .mistyped ..
  · exact nomatch h
  · split at h <;> exact nomatch h

theorem failure_of_resolveOperator {schema : Schema} {key : FilterKey} {metadata : FieldMetadata}
    {raw : String} {error : FilterError}
    (h : resolveOperator schema key metadata raw = .error error) : ResolutionFailure error := by
  unfold resolveOperator at h
  split at h
  · exact nomatch h
  · exact nomatch h
  · split at h
    · rename_i failed
      obtain rfl := Except.error.inj h
      exact failure_of_column failed
    · exact failure_of_resolveValue h

theorem failure_of_resolveFilter {schema : Schema} {config : FilterConfig} {entity : Entity}
    {key raw : String} {error : FilterError}
    (h : resolveFilter schema config entity key raw = .error error) : ResolutionFailure error := by
  unfold resolveFilter at h
  dsimp only at h
  split at h
  · exact nomatch h
  · split at h
    · exact nomatch h
    · split at h
      · exact failure_of_resolveOperator h
      · exact nomatch h
    · exact failure_of_resolveOperator h

/-! ### Holes in the schema -/

theorem declared_eq_hole_iff {schema : Schema} {name hole : String} :
    schema.declared name = .error (.unknownEntity hole) ↔
      name = hole ∧ schema.entity? name = none := by
  unfold Schema.declared
  cases schema.entity? name with
  | none => simp
  | some entity => simp

theorem declared_of_resolveOperator {schema : Schema} {key : FilterKey} {metadata : FieldMetadata}
    {raw hole : String}
    (h : resolveOperator schema key metadata raw = .error (.unknownEntity hole)) :
    ∃ link, metadata = .association link ∧
      schema.declared link.target = .error (.unknownEntity hole) := by
  unfold resolveOperator at h
  split at h
  · exact nomatch h
  · exact nomatch h
  · split at h
    · rename_i failed
      obtain rfl := Except.error.inj h
      exact declared_of_column_error failed
    · -- A value never fails with a hole.
      unfold resolveValue at h
      split at h
      · exact nomatch Except.error.inj h
      · exact nomatch h
      · split at h <;> exact nomatch h

theorem hole_of_resolveFilter {schema : Schema} {config : FilterConfig} {entity : Entity}
    {key raw hole : String}
    (h : resolveFilter schema config entity key raw = .error (.unknownEntity hole)) :
    ∃ field link, entity.association? field = some link ∧
      schema.declared link.target = .error (.unknownEntity hole) := by
  unfold resolveFilter at h
  dsimp only at h
  split at h
  · exact nomatch h
  · split at h
    · exact nomatch h
    · rename_i found
      split at h
      · obtain ⟨link, same, undeclared⟩ := declared_of_resolveOperator h
        obtain rfl := FieldMetadata.association.inj same
        exact ⟨_, _, Entity.metadata?_eq_association_iff.mp found, undeclared⟩
      · exact nomatch h
    · obtain ⟨link, same, -⟩ := declared_of_resolveOperator h
      exact nomatch same

theorem problem_of_resolveRelationship {config : FilterConfig} {entity : Entity} {key : String}
    {reason : SkipReason} (h : resolveRelationship config entity key = .skipped reason) :
    reason.problem key = .join key := by
  unfold resolveRelationship at h
  split at h
  · split at h
    · exact nomatch h
    · obtain rfl := Resolution.skipped.inj h
      rfl
  · obtain rfl := Resolution.skipped.inj h
    rfl

/-! ### Applied entries -/

theorem resolveRelationship_eq_applied_iff {config : FilterConfig} {entity : Entity} {key : String}
    {association : Association} :
    resolveRelationship config entity key = .applied association ↔
      config.relationships = true ∧ entity.association? key = some association := by
  unfold resolveRelationship
  cases config.relationships with
  | false => simp
  | true => cases entity.association? key <;> simp

/-- Whether a field can be compared: a column always, an association if it has the identifier. -/
def FieldMetadata.isComparable : FieldMetadata → Bool
  | .scalar _ => true
  | .association link => link.isOwning

/-- The checks that an entry passes on its way to `filter`. -/
structure Passes (schema : Schema) (config : FilterConfig) (entity : Entity) (key raw : String)
    (filter : ResolvedFilter) : Prop where
  decoded : FilterKey.decode config.aliases config.operators key =
    ⟨filter.field, .enabled filter.operator⟩
  filterable : config.filterable.allows filter.field = true
  compared : ∃ metadata fieldType value, entity.metadata? filter.field = some metadata ∧
    metadata.isComparable = true ∧ metadata.column schema = .ok (filter.column, fieldType) ∧
    FilterValue.decode raw fieldType filter.operator = .ok value ∧
    Instruction.of? filter.operator value = some filter.instruction
  lenient : filter.lenient = isLenient filter.operator raw

theorem resolveValue_eq_applied_iff {field column raw : String} {fieldType : FieldType}
    {op : Operator} {filter : ResolvedFilter} :
    resolveValue field column fieldType op raw = .ok (.applied filter) ↔
      filter.field = field ∧ filter.column = column ∧ filter.operator = op ∧
        filter.lenient = isLenient op raw ∧
        ∃ value, FilterValue.decode raw fieldType op = .ok value ∧
          Instruction.of? op value = some filter.instruction := by
  unfold resolveValue
  constructor
  · intro h
    split at h
    · exact nomatch h
    · exact nomatch h
    · rename_i value decoded
      split at h
      · rename_i instruction found
        obtain rfl := Resolution.applied.inj (Except.ok.inj h)
        exact ⟨rfl, rfl, rfl, rfl, value, decoded, found⟩
      · exact nomatch h
  · rintro ⟨rfl, rfl, rfl, lenient, value, decoded, found⟩
    obtain ⟨field, column, op, instruction, flag⟩ := filter
    simp only [decoded, found, ← lenient]

theorem resolveOperator_eq_applied_iff {schema : Schema} {key : FilterKey}
    {metadata : FieldMetadata} {raw : String} {filter : ResolvedFilter} :
    resolveOperator schema key metadata raw = .ok (.applied filter) ↔
      key = ⟨filter.field, .enabled filter.operator⟩ ∧
        filter.lenient = isLenient filter.operator raw ∧
        ∃ fieldType value, metadata.column schema = .ok (filter.column, fieldType) ∧
          FilterValue.decode raw fieldType filter.operator = .ok value ∧
          Instruction.of? filter.operator value = some filter.instruction := by
  obtain ⟨field, operator⟩ := key
  cases operator with
  | implicitDisabled => simp [resolveOperator]
  | unavailable token => simp [resolveOperator]
  | enabled op =>
    cases column : metadata.column schema with
    | error error => simp [resolveOperator, column]
    | ok found =>
      obtain ⟨name, fieldType⟩ := found
      simp only [resolveOperator, column, resolveValue_eq_applied_iff, FilterKey.mk.injEq,
        KeyOperator.enabled.injEq, Except.ok.injEq, Prod.mk.injEq]
      constructor
      · rintro ⟨rfl, rfl, rfl, lenient, value, decoded, instruction⟩
        exact ⟨⟨rfl, rfl⟩, lenient, fieldType, value, ⟨rfl, rfl⟩, decoded, instruction⟩
      · rintro ⟨⟨rfl, rfl⟩, lenient, _, value, ⟨rfl, rfl⟩, decoded, instruction⟩
        exact ⟨rfl, rfl, rfl, lenient, value, decoded, instruction⟩

theorem resolveFilter_eq_resolveOperator {schema : Schema} {config : FilterConfig} {entity : Entity}
    {key raw : String} {decoded : FilterKey} {metadata : FieldMetadata}
    (read : FilterKey.decode config.aliases config.operators key = decoded)
    (filterable : config.filterable.allows decoded.field = true)
    (found : entity.metadata? decoded.field = some metadata)
    (comparable : metadata.isComparable = true) :
    resolveFilter schema config entity key raw = resolveOperator schema decoded metadata raw := by
  unfold resolveFilter
  rw [read]
  dsimp only
  rw [if_neg fun denied => denied filterable, found]
  cases metadata with
  | scalar field => rfl
  | association link => exact if_pos comparable

/-- An entry is applied exactly if it passes every check. -/
theorem resolveFilter_eq_applied_iff {schema : Schema} {config : FilterConfig} {entity : Entity}
    {key raw : String} {filter : ResolvedFilter} :
    resolveFilter schema config entity key raw = .ok (.applied filter) ↔
      Passes schema config entity key raw filter := by
  constructor
  · intro h
    unfold resolveFilter at h
    generalize read : FilterKey.decode config.aliases config.operators key = decoded at h
    dsimp only at h
    split at h
    · exact nomatch h
    · rename_i allowed
      rw [Decidable.not_not] at allowed
      have checked : ∃ metadata, entity.metadata? decoded.field = some metadata ∧
          metadata.isComparable = true ∧
          resolveOperator schema decoded metadata raw = .ok (.applied filter) := by
        split at h
        · exact nomatch h
        · rename_i link found
          split at h
          · rename_i owning
            exact ⟨.association link, found, owning, h⟩
          · exact nomatch h
        · rename_i field found
          exact ⟨.scalar field, found, rfl, h⟩
      obtain ⟨metadata, found, comparable, operated⟩ := checked
      obtain ⟨rfl, lenient, fieldType, value, column, valued, instruction⟩ :=
        resolveOperator_eq_applied_iff.mp operated
      exact ⟨read, allowed, ⟨metadata, fieldType, value, found, comparable, column, valued,
        instruction⟩, lenient⟩
  · rintro ⟨read, filterable, ⟨metadata, fieldType, value, found, comparable, column, valued,
      instruction⟩, lenient⟩
    rw [resolveFilter_eq_resolveOperator read filterable found comparable]
    exact resolveOperator_eq_applied_iff.mpr
      ⟨rfl, lenient, fieldType, value, column, valued, instruction⟩

theorem Passes.isEnabled {schema : Schema} {config : FilterConfig} {entity : Entity}
    {key raw : String} {filter : ResolvedFilter}
    (passes : Passes schema config entity key raw filter) :
    config.operators.isEnabled filter.operator = true := by
  have operator := congrArg FilterKey.operator passes.decoded
  unfold FilterKey.decode at operator
  dsimp only at operator
  split at operator
  · exact (KeyOperator.ofToken_eq_enabled_iff.mp operator).1
  · exact (KeyOperator.implicit_eq_enabled_iff.mp operator).1

end QueryFilter
