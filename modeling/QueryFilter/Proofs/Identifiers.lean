import QueryFilter.Proofs.KeyGrammar
import QueryFilter.Schema.Concerts

/-!
# Filters on identifiers

An entity that belongs to another one holds the identifier of it. A filter on the association reads
its key and its value as a filter on the identifier itself does, whatever the operator and however
it ends; only the column is another one (`association_agrees_with_identifier`).
-/

namespace QueryFilter

/-! ### Keys -/

/-- The key for a field, with a bar and the text of an operator behind it or without. -/
def FilterKey.text (field : String) : Option String → String
  | none => field
  | some operator => field ++ "|" ++ operator

/-- A key that has this name is one for the field of the name, which may be filtered. -/
structure FilterConfig.Takes (config : FilterConfig) (name : String) : Prop where
  trimmed : Text.trimmed name = name
  unbarred : '|' ∉ name.toList
  unaliased : config.aliases.get? name = none
  allowed : config.filterable.allows name = true

/-- The operator that the text behind the bar stands for, or its absence. -/
def FilterConfig.operatorOf (config : FilterConfig) (operator : Option String) : KeyOperator :=
  .ofToken? config.operators
    (operator.map fun text => String.ofList (Text.lowercase (Text.trim text.toList)))

theorem FilterConfig.Takes.decode_text {config : FilterConfig} {name : String}
    (takes : config.Takes name) (operator : Option String) :
    FilterKey.decode config.aliases config.operators (FilterKey.text name operator) =
      ⟨name, config.operatorOf operator⟩ := by
  have written : FilterKey.Written (FilterKey.text name operator) name
      (operator.map fun text => String.ofList (Text.lowercase (Text.trim text.toList))) := by
    cases operator with
    | none =>
      have bare := FilterKey.Written.bare takes.unbarred
      rwa [takes.trimmed] at bare
    | some text =>
      have cut : (FilterKey.text name (some text)).toList = name.toList ++ '|' :: text.toList := by
        simp [FilterKey.text]
      have barred := FilterKey.Written.barred cut takes.unbarred
      rwa [← Text.trimmed, takes.trimmed] at barred
  rw [written.decode_eq, takes.unaliased, Option.getD_none, operatorOf]

/-! ### Outcomes -/

/-- The outcomes differ in the names of the field and of the column alone. -/
inductive SameUpToNames (field column field' column' : String) :
    Except FilterError (Resolution ResolvedFilter) →
      Except FilterError (Resolution ResolvedFilter) → Prop
  | applied (operator : Operator) (instruction : Instruction) (lenient : Bool) :
    SameUpToNames field column field' column'
      (.ok (.applied { field, column, operator, instruction, lenient }))
      (.ok (.applied { field := field', column := column', operator, instruction, lenient }))
  | skipped (reason : SkipReason) :
    SameUpToNames field column field' column' (.ok (.skipped reason)) (.ok (.skipped reason))
  | mistyped (fieldType : FieldType) (value : String) :
    SameUpToNames field column field' column'
      (.error (.invalidValue field fieldType value)) (.error (.invalidValue field' fieldType value))

section
variable {schema : Schema} {config : FilterConfig} {entity target : Entity} {link : Association}

theorem resolveValue_sameUpToNames (field column field' column' : String) (fieldType : FieldType)
    (op : Operator) (raw : String) :
    SameUpToNames field column field' column' (resolveValue field column fieldType op raw)
      (resolveValue field' column' fieldType op raw) := by
  unfold resolveValue
  cases FilterValue.decode raw fieldType op with
  | error failure =>
    cases failure with
    | type fieldType value => exact .mistyped fieldType value
    | shape op value => exact .skipped _
  | ok value =>
    dsimp only
    cases Instruction.of? op value with
    | some instruction => exact .applied op instruction _
    | none => exact .skipped _

theorem resolveOperator_sameUpToNames {metadata metadata' : FieldMetadata}
    {column column' : String} {fieldType : FieldType}
    (found : metadata.column schema = .ok (column, fieldType))
    (found' : metadata'.column schema = .ok (column', fieldType))
    (field field' : String) (operator : KeyOperator) (raw : String) :
    SameUpToNames field column field' column'
      (resolveOperator schema ⟨field, operator⟩ metadata raw)
      (resolveOperator schema ⟨field', operator⟩ metadata' raw) := by
  unfold resolveOperator
  cases operator with
  | implicitDisabled => exact .skipped _
  | unavailable token => exact .skipped _
  | enabled op =>
    dsimp only
    rw [found, found']
    exact resolveValue_sameUpToNames field column field' column' fieldType op raw

/-! ### Associations -/

/-- A row of `entity` belongs to one of `target` by `link`, and `key` is the field of `target` that
identifies its rows. -/
structure Schema.Identifies (schema : Schema) (entity : Entity) (link : Association)
    (target : Entity) (key : ScalarField) : Prop where
  linked : entity.association? link.name = some link
  kind : link.kind = .belongsTo
  declared : schema.entity? link.target = some target
  identifier : target.scalarField? target.primaryKey = some key

theorem Schema.Identifies.column {key : ScalarField}
    (identifies : schema.Identifies entity link target key) :
    (FieldMetadata.association link).column schema = .ok (link.localColumn, key.fieldType) := by
  have identified : target.identifierType = key.fieldType := by
    simp [Entity.identifierType, Entity.primaryKeyType?, identifies.identifier]
  have declared := declared_eq_ok_iff.mpr identifies.declared
  simp only [FieldMetadata.column, declared, Except.map, identified]

/-- A filter on an association and one on the identifier that it holds come to the same end. -/
theorem association_agrees_with_identifier {key : ScalarField}
    (identifies : schema.Identifies entity link target key)
    (association : config.Takes link.name) (identifier : config.Takes target.primaryKey)
    (operator : Option String) (raw : String) :
    SameUpToNames link.name link.localColumn target.primaryKey key.column
      (resolveFilter schema config entity (FilterKey.text link.name operator) raw)
      (resolveFilter schema config target (FilterKey.text target.primaryKey operator) raw) := by
  have owning : link.isOwning = true := by
    rw [Association.isOwning, identifies.kind]
    rfl
  have linked := Entity.metadata?_eq_association_iff.mpr identifies.linked
  have identified := Entity.metadata?_eq_scalar_iff.mpr identifies.identifier
  rw [resolveFilter_eq_resolveOperator (association.decode_text operator) association.allowed linked
      owning,
    resolveFilter_eq_resolveOperator (identifier.decode_text operator) identifier.allowed identified
      rfl]
  exact resolveOperator_sameUpToNames identifies.column rfl _ _ _ raw

end

/-- Artists may have greater identifiers than performances, and these are what the column holds. -/
theorem association_agrees_with_identifier_concerts :
    let config : FilterConfig := { filterable := .ofNames ["artist", "id"] }
    let raw := "9223372036854775808"
    ∃ performance artist, Schema.concerts.entity? "performance" = some performance ∧
      Schema.concerts.entity? "artist" = some artist ∧
      resolveFilter .concerts config performance "id| IN" raw =
        .error (.invalidValue "id" .integer raw) ∧
      resolveFilter .concerts config performance "artist| IN" raw =
        .ok (.applied
          { field := "artist"
            column := "artist_id"
            operator := .within
            instruction := .restrict (.within [.bigUnsigned 9223372036854775808])
            lenient := true }) ∧
      SameUpToNames "artist" "artist_id" "id" "id"
        (resolveFilter .concerts config performance "artist| IN" raw)
        (resolveFilter .concerts config artist "id| IN" raw) := by
  intro config raw
  let performance := (Schema.concerts.entity? "performance").get (by decide +kernel)
  let artist := (Schema.concerts.entity? "artist").get (by decide +kernel)
  let link : Association := ⟨"artist", "artist", .belongsTo, "artist_id", "id"⟩
  have identifies :
      Schema.concerts.Identifies performance link artist ⟨"id", "id", .bigInteger⟩ :=
    ⟨by decide +kernel, rfl, by decide +kernel, by decide +kernel⟩
  have association : config.Takes link.name :=
    ⟨by decide +kernel, by decide +kernel, by decide +kernel, by decide +kernel⟩
  have identifier : config.Takes artist.primaryKey :=
    ⟨by decide +kernel, by decide +kernel, by decide +kernel, by decide +kernel⟩
  exact ⟨performance, artist, by decide +kernel, by decide +kernel, by decide +kernel,
    by decide +kernel,
    association_agrees_with_identifier identifies association identifier (some " IN") raw⟩

end QueryFilter
