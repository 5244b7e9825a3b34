import QueryFilter.FilterMap
import QueryFilter.Resolution

/-!
# Validation

Validation takes the entries of a filter map in the order in which they would be applied, and puts
into a report what is wrong with each. A value of the wrong type is reported like any other
problem. What is wrong with the schema is no problem of the filters and ends the validation.
-/

namespace QueryFilter

/-- The problem that an entry skipped for this reason is. A field is named as the key has it. -/
def SkipReason.problem (key : String) : SkipReason → Problem
  | .notFilterable | .unknownField | .inverseAssociation => .field (FilterKey.writtenField key)
  | .unavailableOperator token => .operator token
  | .implicitEqualityDisabled => .operator Operator.eq.token
  | .valueShape op value => .value ⟨op.token, value⟩
  | .relationshipsDisabled | .unknownAssociation => .join key

def validateFilter (schema : Schema) (config : FilterConfig) (entity : Entity) (key raw : String)
    (report : Report) : Except FilterError Report :=
  match resolveFilter schema config entity key raw with
  | .ok (.applied filter) =>
    if filter.lenient then
      .ok (report.add ((SkipReason.valueShape filter.operator (Text.trimmed raw)).problem key))
    else .ok report
  | .ok (.skipped reason) => .ok (report.add (reason.problem key))
  | .error (.invalidValue _ fieldType value) =>
    .ok (report.add (.typedValue ⟨fieldType.tag, value⟩))
  | .error error => .error error

def validateMap (schema : Schema) (config : FilterConfig) :
    FilterMap → (entity : Entity) → Report → Except FilterError Report
  | .empty, _, report => .ok report
  | .text key raw rest, entity, report =>
    (validateFilter schema config entity key raw report).bind
      (validateMap schema config rest entity)
  | .nested key inner rest, entity, report =>
    Except.bind
      (match resolveRelationship config entity key with
      | .skipped _ => .ok (report.add (.join key))
      | .applied association =>
        (schema.declared association.target).bind fun target =>
          validateMap schema config inner target report)
      (validateMap schema config rest entity)

def validate (schema : Schema) (root : String) (config : FilterConfig) (filters : FilterMap) :
    Except FilterError Report :=
  (schema.declared root).bind fun entity => validateMap schema config filters entity {}

end QueryFilter
