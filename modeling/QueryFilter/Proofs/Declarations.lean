import Mathlib.Data.List.Induction
import QueryFilter.Schema.Entity

/-!
# Declarations

An entity is declared piece by piece, and a name may be declared again as something else. It stands
for its last declaration and for nothing besides (`last_declaration_counts`).
-/

namespace QueryFilter

theorem getLast?_filterMap_concat {α β : Type} (f : α → Option β) (xs : List α) (x : α) :
    ((xs ++ [x]).filterMap f).getLast? = (f x).or (xs.filterMap f).getLast? := by
  rw [List.filterMap_append]
  cases taken : f x <;> simp [taken]

def FieldMetadata.name : FieldMetadata → String
  | scalar field => field.name
  | association link => link.name

/-- One step in the declaration of an entity. -/
inductive Declaration where
  | field (name : String) (fieldType : FieldType)
  | fieldAs (name column : String) (fieldType : FieldType)
  | association (kind : AssociationKind) (name target localColumn foreignColumn : String)
  | primaryKey (field : String)

namespace Declaration

def run (entity : Entity) : Declaration → Entity
  | field name fieldType => entity.withField name fieldType
  | fieldAs name column fieldType => entity.withFieldAs name column fieldType
  | association kind name target localColumn foreignColumn =>
    entity.withAssociation kind name target localColumn foreignColumn
  | primaryKey name => entity.withPrimaryKey name

def metadata? : Declaration → Option FieldMetadata
  | field name fieldType => some (.scalar ⟨name, name, fieldType⟩)
  | fieldAs name column fieldType => some (.scalar ⟨name, column, fieldType⟩)
  | association kind name target localColumn foreignColumn =>
    some (.association ⟨name, target, kind, localColumn, foreignColumn⟩)
  | primaryKey _ => none

/-- What is declared under the name `key`. -/
def under? (key : String) (declaration : Declaration) : Option FieldMetadata :=
  declaration.metadata?.filter fun metadata => metadata.name == key

def primaryKey? : Declaration → Option String
  | primaryKey name => some name
  | field .. | fieldAs .. | association .. => none

theorem or_under? {declaration : Declaration} {metadata : FieldMetadata} {key : String}
    {before : Option FieldMetadata} (declares : declaration.metadata? = some metadata) :
    (declaration.under? key).or before = if key = metadata.name then some metadata else before := by
  rw [under?, declares, Option.filter_some]
  by_cases same : key = metadata.name
  · simp [same]
  · simp [same, Ne.symm same]

end Declaration

namespace Entity

def declareAll (name table : String) (declarations : List Declaration) : Entity :=
  declarations.foldl Declaration.run (declare name table)

/-! ### Names -/

section
variable {entity : Entity} {key : String}

theorem name_of_metadata? {metadata : FieldMetadata}
    (found : entity.metadata? key = some metadata) : metadata.name = key := by
  cases metadata with
  | scalar field => exact entity.fields_named key field (metadata?_eq_scalar_iff.mp found)
  | association link => exact name_of_association? (metadata?_eq_association_iff.mp found)

theorem primaryKeyType?_eq_some_iff {fieldType : FieldType} :
    entity.primaryKeyType? = some fieldType ↔
      ∃ field, entity.metadata? entity.primaryKey = some (.scalar field) ∧
        field.fieldType = fieldType := by
  simp only [primaryKeyType?, Option.map_eq_some_iff, metadata?_eq_scalar_iff]

end

/-! ### One declaration -/

section
variable (entity : Entity) (key : String)

theorem metadata?_withFieldAs (name column : String) (fieldType : FieldType) :
    (entity.withFieldAs name column fieldType).metadata? key =
      if key = name then some (.scalar ⟨name, column, fieldType⟩) else entity.metadata? key := by
  simp only [metadata?, scalarField?, association?, withFieldAs, Dict.get?_insert, Dict.get?_erase]
  split <;> rfl

theorem metadata?_withAssociation (kind : AssociationKind)
    (name target localColumn foreignColumn : String) :
    (entity.withAssociation kind name target localColumn foreignColumn).metadata? key =
      if key = name then some (.association ⟨name, target, kind, localColumn, foreignColumn⟩)
      else entity.metadata? key := by
  simp only [metadata?, scalarField?, association?, withAssociation, Dict.get?_insert,
    Dict.get?_erase]
  split <;> rfl

/-- A declaration replaces what stood under its name and leaves every other name as it was. -/
theorem metadata?_run (declaration : Declaration) :
    (declaration.run entity).metadata? key =
      (declaration.under? key).or (entity.metadata? key) := by
  cases declaration with
  | field name fieldType =>
    rw [Declaration.or_under? rfl]
    exact entity.metadata?_withFieldAs key name name fieldType
  | fieldAs name column fieldType =>
    rw [Declaration.or_under? rfl]
    exact entity.metadata?_withFieldAs key name column fieldType
  | association kind name target localColumn foreignColumn =>
    rw [Declaration.or_under? rfl]
    exact entity.metadata?_withAssociation key kind name target localColumn foreignColumn
  | primaryKey name => rfl

theorem primaryKey_run (declaration : Declaration) :
    (declaration.run entity).primaryKey = declaration.primaryKey?.getD entity.primaryKey := by
  cases declaration <;> rfl

theorem name_run (declaration : Declaration) : (declaration.run entity).name = entity.name := by
  cases declaration <;> rfl

theorem table_run (declaration : Declaration) : (declaration.run entity).table = entity.table := by
  cases declaration <;> rfl

end

/-! ### Sequences of declarations -/

section
variable (name table : String) (declarations : List Declaration)

theorem declareAll_concat (last : Declaration) :
    declareAll name table (declarations ++ [last]) =
      last.run (declareAll name table declarations) :=
  List.foldl_append

theorem metadata?_declareAll (key : String) :
    (declareAll name table declarations).metadata? key =
      (declarations.filterMap (Declaration.under? key)).getLast? := by
  induction declarations using List.reverseRecOn with
  | nil => rfl
  | append_singleton declarations last ih =>
    rw [declareAll_concat, metadata?_run, ih, getLast?_filterMap_concat]

theorem primaryKey_declareAll :
    (declareAll name table declarations).primaryKey =
      (declarations.filterMap Declaration.primaryKey?).getLast?.getD "id" := by
  induction declarations using List.reverseRecOn with
  | nil => rfl
  | append_singleton declarations last ih =>
    rw [declareAll_concat, primaryKey_run, ih, getLast?_filterMap_concat]
    cases last.primaryKey? <;> rfl

theorem name_declareAll : (declareAll name table declarations).name = name := by
  induction declarations using List.reverseRecOn with
  | nil => rfl
  | append_singleton declarations last ih => rw [declareAll_concat, name_run, ih]

theorem table_declareAll : (declareAll name table declarations).table = table := by
  induction declarations using List.reverseRecOn with
  | nil => rfl
  | append_singleton declarations last ih => rw [declareAll_concat, table_run, ih]

end

end Entity

theorem Schema.entity?_ofEntities (entities : List Entity) (name : String) :
    (ofEntities entities).entity? name =
      (entities.filter fun entity => entity.name == name).getLast? := by
  induction entities using List.reverseRecOn with
  | nil => rfl
  | append_singleton entities last ih =>
    have concat : ofEntities (entities ++ [last]) = (ofEntities entities).register last :=
      List.foldl_append
    have registered : ((ofEntities entities).register last).entity? name =
        if name = last.name then some last else (ofEntities entities).entity? name :=
      Dict.get?_insert ..
    rw [concat, registered, ih, List.filter_append]
    by_cases same : name = last.name
    · simp [same]
    · simp [same, Ne.symm same]

/-- A name stands for the last declaration of it, and in a schema for the last entity. -/
theorem last_declaration_counts (name table : String) (declarations : List Declaration) :
    let entity := Entity.declareAll name table declarations
    let last := fun key => (declarations.filterMap (Declaration.under? key)).getLast?
    (∀ key,
      entity.metadata? key = last key ∧
      (entity.scalarField? key = none ∨ entity.association? key = none) ∧
      (∀ field, entity.scalarField? key = some field ↔ last key = some (.scalar field)) ∧
      (∀ link, entity.association? key = some link ↔ last key = some (.association link)) ∧
      ∀ metadata, entity.metadata? key = some metadata → metadata.name = key) ∧
    entity.name = name ∧ entity.table = table ∧
    entity.primaryKey = (declarations.filterMap Declaration.primaryKey?).getLast?.getD "id" ∧
    (∀ fieldType, entity.primaryKeyType? = some fieldType ↔
      ∃ field, last entity.primaryKey = some (.scalar field) ∧ field.fieldType = fieldType) ∧
    ∀ entities name, (Schema.ofEntities entities).entity? name =
      (entities.filter fun entity => entity.name == name).getLast? := by
  intro entity last
  have declared : ∀ key, entity.metadata? key = last key :=
    Entity.metadata?_declareAll name table declarations
  refine ⟨fun key => ⟨declared key, entity.exclusive key, fun field => ?_, fun link => ?_,
      fun metadata => Entity.name_of_metadata?⟩,
    Entity.name_declareAll name table declarations, Entity.table_declareAll name table declarations,
    Entity.primaryKey_declareAll name table declarations, fun fieldType => ?_,
    Schema.entity?_ofEntities⟩
  · rw [← declared, Entity.metadata?_eq_scalar_iff]
  · rw [← declared, Entity.metadata?_eq_association_iff]
  · rw [← declared, Entity.primaryKeyType?_eq_some_iff]

/-- Both names of a venue are declared as a field and as an association, and the primary key ends up
as the name of an association. -/
theorem last_declaration_counts_venue :
    let declarations : List Declaration :=
      [.field "id" .integer, .primaryKey "code", .fieldAs "code" "venue_code" .string,
        .association .hasMany "id" "performance" "id" "venue_id",
        .association .belongsTo "code" "city" "city_id" "id", .fieldAs "id" "venue_id" .uuid]
    let venue := Entity.declareAll "venue" "venues" declarations
    venue.metadata? "code" = some (.association ⟨"code", "city", .belongsTo, "city_id", "id"⟩) ∧
      venue.scalarField? "id" = some ⟨"id", "venue_id", .uuid⟩ ∧
      venue.association? "id" = none ∧ venue.metadata? "venue_code" = none ∧
      venue.primaryKey = "code" ∧ venue.primaryKeyType? = none ∧
      (Schema.ofEntities [venue, .declare "city" "cities", .declare "venue" "places"]).entity?
        "venue" = some (.declare "venue" "places") := by
  intro declarations venue
  obtain ⟨names, -, -, primaryKey, keyType, registered⟩ :=
    last_declaration_counts "venue" "venues" declarations
  obtain ⟨code, -⟩ := names "code"
  obtain ⟨-, exclusive, scalar, -⟩ := names "id"
  have id : venue.scalarField? "id" = some ⟨"id", "venue_id", .uuid⟩ :=
    (scalar _).mpr (by decide +kernel)
  have linked : (declarations.filterMap (Declaration.under? venue.primaryKey)).getLast? =
      some (.association ⟨"code", "city", .belongsTo, "city_id", "id"⟩) := by decide +kernel
  have unlinked : venue.association? "id" = none :=
    exclusive.resolve_left fun absent => nomatch absent.symm.trans id
  refine ⟨code.trans (by decide +kernel), id, unlinked,
    (names "venue_code").1.trans (by decide +kernel), primaryKey.trans (by decide +kernel),
    Option.eq_none_iff_forall_ne_some.mpr fun fieldType typed => ?_,
    (registered _ _).trans (by decide +kernel)⟩
  obtain ⟨field, last, -⟩ := (keyType fieldType).mp typed
  exact nomatch linked.symm.trans last

end QueryFilter
