import QueryFilter.Dict
import QueryFilter.Schema.ColumnType

/-!
# Entities

An entity has a table, scalar fields and associations to other entities. Under one name it has a
field or an association and never both: each declaration takes the place of every earlier one of
its name. An `Entity` carries this with it, and so does a `Schema` that every entity stands under
its own name.
-/

namespace QueryFilter

structure ScalarField where
  name : String
  column : String
  fieldType : FieldType
  deriving DecidableEq, Repr

/-- Which side holds the identifier of the other one: the entity itself, or the target. -/
inductive AssociationKind where
  | belongsTo
  | hasOne
  | hasMany
  deriving DecidableEq, Repr, Inhabited

structure Association where
  name : String
  target : String
  kind : AssociationKind
  localColumn : String
  foreignColumn : String
  deriving DecidableEq, Repr

/-- Whether the local column holds the identifier of the target. -/
def Association.isOwning (association : Association) : Bool := association.kind == .belongsTo

inductive FieldMetadata where
  | scalar (field : ScalarField)
  | association (association : Association)
  deriving DecidableEq, Repr

structure Entity where
  name : String
  table : String
  /-- The name of the field that identifies a row. -/
  primaryKey : String := "id"
  fields : Dict ScalarField := .empty
  associations : Dict Association := .empty
  fields_named : fields.Named ScalarField.name := by exact Dict.named_empty _
  associations_named : associations.Named Association.name := by exact Dict.named_empty _
  /-- No name has both a field and an association. -/
  exclusive : ∀ key, fields.get? key = none ∨ associations.get? key = none := by
    exact fun _ => .inl rfl
  deriving DecidableEq

namespace Entity

def declare (name table : String) : Entity := { name, table }

def withPrimaryKey (entity : Entity) (field : String) : Entity :=
  { entity with primaryKey := field }

/-- Declares a field that is stored in a column of another name. -/
def withFieldAs (entity : Entity) (name column : String) (fieldType : FieldType) : Entity :=
  { entity with
    fields := entity.fields.insert name { name, column, fieldType }
    associations := entity.associations.erase name
    fields_named := entity.fields_named.insert { name, column, fieldType }
    associations_named := entity.associations_named.erase name
    exclusive := by
      intro key
      rw [Dict.get?_insert, Dict.get?_erase]
      split
      · exact .inr rfl
      · exact entity.exclusive key }

def withField (entity : Entity) (name : String) (fieldType : FieldType) : Entity :=
  entity.withFieldAs name name fieldType

def withAssociation (entity : Entity) (kind : AssociationKind)
    (name target localColumn foreignColumn : String) : Entity :=
  { entity with
    fields := entity.fields.erase name
    associations :=
      entity.associations.insert name { name, target, kind, localColumn, foreignColumn }
    fields_named := entity.fields_named.erase name
    associations_named :=
      entity.associations_named.insert { name, target, kind, localColumn, foreignColumn }
    exclusive := by
      intro key
      rw [Dict.get?_insert, Dict.get?_erase]
      split
      · exact .inl rfl
      · exact entity.exclusive key }

/-- The entity of a database table: its fields are the columns, in order, under their own names. -/
def ofTable (table primaryKey : String) (columns : List (String × ColumnType)) : Entity :=
  columns.foldl (fun entity (name, columnType) => entity.withField name columnType.fieldType)
    ((declare table table).withPrimaryKey primaryKey)

def scalarField? (entity : Entity) (name : String) : Option ScalarField := entity.fields.get? name

def association? (entity : Entity) (name : String) : Option Association :=
  entity.associations.get? name

def metadata? (entity : Entity) (name : String) : Option FieldMetadata :=
  ((entity.scalarField? name).map .scalar).or ((entity.association? name).map .association)

def primaryKeyType? (entity : Entity) : Option FieldType :=
  (entity.scalarField? entity.primaryKey).map ScalarField.fieldType

theorem name_of_association? {entity : Entity} {name : String} {association : Association}
    (h : entity.association? name = some association) : association.name = name :=
  entity.associations_named name association h

theorem metadata?_eq_scalar_iff {entity : Entity} {name : String} {field : ScalarField} :
    entity.metadata? name = some (.scalar field) ↔ entity.scalarField? name = some field := by
  unfold metadata?
  cases entity.scalarField? name <;> simp

theorem metadata?_eq_association_iff {entity : Entity} {name : String}
    {association : Association} :
    entity.metadata? name = some (.association association) ↔
      entity.association? name = some association := by
  unfold metadata?
  rcases entity.exclusive name with unscaled | unlinked
  · have absent : entity.scalarField? name = none := unscaled
    simp [absent]
  · have absent : entity.association? name = none := unlinked
    simp [absent]

end Entity

structure Schema where
  entities : Dict Entity := .empty
  entities_named : entities.Named Entity.name := by exact Dict.named_empty _
  deriving DecidableEq

namespace Schema

/-- Declares an entity, instead of any earlier one of its name. -/
def register (schema : Schema) (entity : Entity) : Schema where
  entities := schema.entities.insert entity.name entity
  entities_named := schema.entities_named.insert entity

def ofEntities (entities : List Entity) : Schema := entities.foldl register {}

def entity? (schema : Schema) (name : String) : Option Entity := schema.entities.get? name

def metadata? (schema : Schema) (entity field : String) : Option FieldMetadata :=
  (schema.entity? entity).bind fun e => e.metadata? field

def primaryKeyType? (schema : Schema) (entity : String) : Option FieldType :=
  (schema.entity? entity).bind Entity.primaryKeyType?

end Schema

end QueryFilter
