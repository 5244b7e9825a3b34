import QueryFilter.FilterConfig
import QueryFilter.FilterError
import QueryFilter.FilterKey
import QueryFilter.Query.Step
import QueryFilter.Schema.Entity

/-!
# Resolution of entries

One entry of a filter map either has something to do to a query or is skipped for a reason. The
first check that fails decides: field filterable, field known, operator enabled, target of an
association declared, value readable. Only the last two can fail as a whole instead.
-/

namespace QueryFilter

inductive SkipReason where
  | unavailableOperator (token : String)
  | implicitEqualityDisabled
  | notFilterable
  | unknownField
  /-- The local column of the association does not hold the identifier of the target. -/
  | inverseAssociation
  | valueShape (op : Operator) (value : String)
  | relationshipsDisabled
  | unknownAssociation
  deriving DecidableEq, Repr

def SkipReason.message : SkipReason → String
  | unavailableOperator token => "operator '" ++ token ++ "' is not available"
  | implicitEqualityDisabled => "implicit equality is disabled"
  | notFilterable => "field is not filterable"
  | unknownField => "field does not exist"
  | inverseAssociation => "association cannot be compared by identifier"
  | valueShape op value => ValueError.shapeMessage op.token value
  | relationshipsDisabled => "relationship filters are disabled"
  | unknownAssociation => "association does not exist"

inductive Resolution (α : Type) where
  | applied (result : α)
  | skipped (reason : SkipReason)
  deriving DecidableEq

inductive Instruction where
  | restrict (comparison : Comparison)
  | order (direction : SortDirection)
  deriving DecidableEq

structure ResolvedFilter where
  /-- The field of the schema, after the aliases. -/
  field : String
  column : String
  operator : Operator
  instruction : Instruction
  /-- Whether the value was taken although it does not suit the operator: a single value for a
  list, or an empty operand. -/
  lenient : Bool
  deriving DecidableEq

/-- What an operator does with a decoded value, if it takes values of that form. -/
def Instruction.of? : Operator → FilterValue → Option Instruction
  | .sort, .sort direction => some (.order direction)
  | .isNull, .none => some (.restrict .isNull)
  | .isNotNull, .none => some (.restrict .isNotNull)
  | .eq, .scalar v => some (.restrict (.eq v))
  | .neq, .scalar v => some (.restrict (.neq v))
  | .gt, .scalar v => some (.restrict (.gt v))
  | .gte, .scalar v => some (.restrict (.gte v))
  | .lt, .scalar v => some (.restrict (.lt v))
  | .lte, .scalar v => some (.restrict (.lte v))
  | .like, .scalar v => some (.restrict (.like v.render))
  | .between, .pair low high => some (.restrict (.between low high))
  | .within, .list vs | .eq, .list vs => some (.restrict (.within vs))
  | .notWithin, .list vs | .neq, .list vs => some (.restrict (.notWithin vs))
  | _, _ => none

/-- Whether the text is taken by the operator although it does not suit it. -/
def isLenient (op : Operator) (raw : String) : Bool :=
  let s := Text.trim raw.toList
  match op.arity with
  | .list => !s.contains ','
  | .scalar => op != .sort && s.isEmpty
  | .pair | .none => false

def Schema.declared (schema : Schema) (name : String) : Except FilterError Entity :=
  match schema.entity? name with
  | some entity => .ok entity
  | none => .error (.unknownEntity name)

/-- The type of an association's local column: that of the target's identifier, if it has one. -/
def Entity.identifierType (target : Entity) : FieldType :=
  target.primaryKeyType?.getD (.other "identifier")

def FieldMetadata.column (schema : Schema) : FieldMetadata → Except FilterError (String × FieldType)
  | .scalar field => .ok (field.column, field.fieldType)
  | .association link =>
    (schema.declared link.target).map fun target => (link.localColumn, target.identifierType)

def resolveValue (field column : String) (fieldType : FieldType) (op : Operator) (raw : String) :
    Except FilterError (Resolution ResolvedFilter) :=
  match FilterValue.decode raw fieldType op with
  | .error (.type fieldType value) => .error (.invalidValue field fieldType value)
  | .error (.shape op value) => .ok (.skipped (.valueShape op value))
  | .ok value =>
    match Instruction.of? op value with
    | some instruction =>
      .ok (.applied { field, column, operator := op, instruction, lenient := isLenient op raw })
    | none => .ok (.skipped (.valueShape op (Text.trimmed raw)))

def resolveOperator (schema : Schema) (key : FilterKey) (metadata : FieldMetadata)
    (raw : String) : Except FilterError (Resolution ResolvedFilter) :=
  match key.operator with
  | .implicitDisabled => .ok (.skipped .implicitEqualityDisabled)
  | .unavailable token => .ok (.skipped (.unavailableOperator token))
  | .enabled op =>
    match metadata.column schema with
    | .error e => .error e
    | .ok (column, fieldType) => resolveValue key.field column fieldType op raw

def resolveFilter (schema : Schema) (config : FilterConfig) (entity : Entity) (key raw : String) :
    Except FilterError (Resolution ResolvedFilter) :=
  let key := FilterKey.decode config.aliases config.operators key
  if ¬ config.filterable.allows key.field then .ok (.skipped .notFilterable)
  else match entity.metadata? key.field with
    | none => .ok (.skipped .unknownField)
    | some (.association link) =>
      if link.isOwning then resolveOperator schema key (.association link) raw
      else .ok (.skipped .inverseAssociation)
    | some (.scalar field) => resolveOperator schema key (.scalar field) raw

/-- The key is the name of an association as it is: neither the aliases nor the filterable fields
apply to it. -/
def resolveRelationship (config : FilterConfig) (entity : Entity) (key : String) :
    Resolution Association :=
  if config.relationships then
    match entity.association? key with
    | some association => .applied association
    | none => .skipped .unknownAssociation
  else .skipped .relationshipsDisabled

end QueryFilter
