import QueryFilter.Proofs.Typing
import QueryFilter.Proofs.Walk
import QueryFilter.Schema.Concerts

/-!
# Scope and types of plans

A plan that application makes selects the table of the root, joins only along declared associations
that start from a table joined before, and compares only columns of tables in scope, under fields
and operators that the configuration leaves, with values of the type of the column.
-/

namespace QueryFilter

/-- The entry stands in the map that the keys of `path` lead to, from the outermost inwards. -/
inductive FilterMap.HasEntry : FilterMap → List String → String → FilterEntry → Prop
  | here {filters : FilterMap} {key : String} {entry : FilterEntry}
    (listed : (key, entry) ∈ filters.entries) : HasEntry filters [] key entry
  | inside {filters inner : FilterMap} {name : String} {path : List String} {key : String}
    {entry : FilterEntry} (listed : (name, .nested inner) ∈ filters.entries)
    (found : HasEntry inner path key entry) : HasEntry filters (name :: path) key entry

theorem FilterMap.HasEntry.snoc {filters inner : FilterMap} {path : List String}
    {name key : String} {entry : FilterEntry} (outer : filters.HasEntry path name (.nested inner))
    (listed : (key, entry) ∈ inner.entries) : filters.HasEntry (path ++ [name]) key entry := by
  generalize same : FilterEntry.nested inner = nested at outer
  induction outer with
  | here member =>
    subst same
    exact .inside member (.here listed)
  | inside member _ ih => exact .inside member (ih same)

/-- The associations of `path` lead from the root to `entity`, each over one of `joins`, and the
last of them gives the alias. -/
inductive InScope (schema : Schema) (root : Entity) (rootAlias : String) (joins : List Join) :
    List String → Entity → String → Prop
  | root : InScope schema root rootAlias joins [] root rootAlias
  | follow {path : List String} {entity target : Entity} {tableAlias : String}
    {association : Association}
    (reached : InScope schema root rootAlias joins path entity tableAlias)
    (declared : entity.association? association.name = some association)
    (aimed : schema.entity? association.target = some target)
    (joined : association.join tableAlias target.table ∈ joins) :
    InScope schema root rootAlias joins (path ++ [association.name]) target association.name

/-- A field stands for its column, and an association that holds the identifier of its target for
the local one. -/
inductive ColumnOf (schema : Schema) (entity : Entity) (field : String) :
    String → FieldType → Prop
  | scalar {declaration : ScalarField} (declared : entity.scalarField? field = some declaration) :
    ColumnOf schema entity field declaration.column declaration.fieldType
  | belongsTo {link : Association} {target : Entity}
    (declared : entity.association? field = some link) (kind : link.kind = .belongsTo)
    (aimed : schema.entity? link.target = some target) :
    ColumnOf schema entity field link.localColumn target.identifierType

/-- The comparisons that an operator makes. Equality with a list means membership. -/
def Operator.makes : Operator → Comparison → Bool
  | .eq, .eq _ | .eq, .within _ | .neq, .neq _ | .neq, .notWithin _ | .gt, .gt _ | .gte, .gte _
  | .lt, .lt _ | .lte, .lte _ | .between, .between .. | .like, .like _ | .within, .within _
  | .notWithin, .notWithin _ | .isNull, .isNull | .isNotNull, .isNotNull => true
  | _, _ => false

/-- A column of a table in scope, for an entry of the filters whose field may be filtered and whose
operator is enabled. -/
def Sourced (schema : Schema) (root : Entity) (rootAlias : String) (config : FilterConfig)
    (filters : FilterMap) (joins : List Join) (column : ColumnPath) (op : Operator)
    (fieldType : FieldType) : Prop :=
  ∃ path entity key raw field,
    InScope schema root rootAlias joins path entity column.tableAlias ∧
    filters.HasEntry path key (.text raw) ∧
    FilterKey.decode config.aliases config.operators key = ⟨field, .enabled op⟩ ∧
    config.operators.isEnabled op = true ∧ config.filterable.allows field = true ∧
    ColumnOf schema entity field column.column fieldType

/-- The join of an association of an entity in scope, for an entry of the filters. -/
def JoinSourced (schema : Schema) (root : Entity) (rootAlias : String) (config : FilterConfig)
    (filters : FilterMap) (before : List Join) (join : Join) : Prop :=
  config.relationships = true ∧
  (join.parentAlias = rootAlias ∨ join.parentAlias ∈ before.map Join.tableAlias) ∧
  ∃ path entity inner association target,
    InScope schema root rootAlias before path entity join.parentAlias ∧
    filters.HasEntry path association.name (.nested inner) ∧
    entity.association? association.name = some association ∧
    schema.entity? association.target = some target ∧
    join = association.join join.parentAlias target.table

structure QueryPlan.Sound (schema : Schema) (root : Entity) (rootAlias : String)
    (config : FilterConfig) (filters : FilterMap) (plan : QueryPlan) : Prop where
  table : plan.table = root.table
  tableAlias : plan.tableAlias = rootAlias
  joins : ∀ before join after, plan.joins = before ++ join :: after →
    JoinSourced schema root rootAlias config filters before join
  predicates : ∀ predicate ∈ plan.predicates, ∃ op fieldType,
    Sourced schema root rootAlias config filters plan.joins predicate.column op fieldType ∧
    op.makes predicate.comparison = true ∧
    ((∀ pattern, predicate.comparison ≠ .like pattern) →
      ∀ v ∈ predicate.comparison.operands, v.HasType fieldType)
  orderBy : ∀ order ∈ plan.orderBy, ∃ fieldType,
    Sourced schema root rootAlias config filters plan.joins order.1 .sort fieldType

section
variable {schema : Schema} {root : Entity} {rootAlias : String} {config : FilterConfig}
  {filters : FilterMap}

/-! ### More joins -/

theorem InScope.mono {joins more : List Join} {path : List String} {entity : Entity}
    {tableAlias : String} (scope : InScope schema root rootAlias joins path entity tableAlias)
    (sub : joins ⊆ more) : InScope schema root rootAlias more path entity tableAlias := by
  induction scope with
  | root => exact .root
  | follow _ declared aimed joined ih => exact .follow ih declared aimed (sub joined)

theorem InScope.alias_mem {joins : List Join} {path : List String} {entity : Entity}
    {tableAlias : String} (scope : InScope schema root rootAlias joins path entity tableAlias) :
    tableAlias = rootAlias ∨ tableAlias ∈ joins.map Join.tableAlias := by
  cases scope with
  | root => exact .inl rfl
  | follow _ _ _ joined => exact .inr (List.mem_map_of_mem joined)

theorem Sourced.mono {joins more : List Join} {column : ColumnPath} {op : Operator}
    {fieldType : FieldType}
    (sourced : Sourced schema root rootAlias config filters joins column op fieldType)
    (sub : joins ⊆ more) :
    Sourced schema root rootAlias config filters more column op fieldType := by
  obtain ⟨path, entity, key, raw, field, scope, rest⟩ := sourced
  exact ⟨path, entity, key, raw, field, scope.mono sub, rest⟩

/-! ### Steps -/

namespace QueryPlan

theorem sound_selectFrom : (QueryTarget.selectFrom root.table rootAlias : QueryPlan).Sound schema
    root rootAlias config filters where
  table := rfl
  tableAlias := rfl
  joins before join after same := by
    have nonempty := congrArg List.length same
    simp [QueryTarget.selectFrom] at nonempty
  predicates _ member := nomatch member
  orderBy _ member := nomatch member

theorem Sound.add_join {plan : QueryPlan} {join : Join}
    (sound : plan.Sound schema root rootAlias config filters)
    (sourced : JoinSourced schema root rootAlias config filters plan.joins join) :
    (plan.add (.join join)).Sound schema root rootAlias config filters where
  table := sound.table
  tableAlias := sound.tableAlias
  joins before other after same := by
    change plan.joins ++ [join] = before ++ other :: after at same
    rcases List.eq_nil_or_concat after with rfl | ⟨init, last, rfl⟩
    · obtain ⟨rfl, last⟩ := List.append_inj' same rfl
      obtain rfl := (List.cons.inj last).1
      exact sourced
    · have front : plan.joins ++ [join] = (before ++ other :: init) ++ [last] := by
        simpa using same
      exact sound.joins before other init (List.append_inj' front rfl).1
  predicates predicate member := by
    obtain ⟨op, fieldType, from_, rest⟩ := sound.predicates predicate member
    exact ⟨op, fieldType, from_.mono (List.subset_append_left _ _), rest⟩
  orderBy order member := by
    obtain ⟨fieldType, from_⟩ := sound.orderBy order member
    exact ⟨fieldType, from_.mono (List.subset_append_left _ _)⟩

theorem Sound.add_restrict {plan : QueryPlan} {predicate : Predicate} {op : Operator}
    {fieldType : FieldType} (sound : plan.Sound schema root rootAlias config filters)
    (sourced : Sourced schema root rootAlias config filters plan.joins predicate.column op fieldType)
    (made : op.makes predicate.comparison = true)
    (typed : (∀ pattern, predicate.comparison ≠ .like pattern) →
      ∀ v ∈ predicate.comparison.operands, v.HasType fieldType) :
    (plan.add (.restrict predicate)).Sound schema root rootAlias config filters where
  table := sound.table
  tableAlias := sound.tableAlias
  joins := sound.joins
  predicates other member := by
    rcases List.mem_append.mp member with old | new
    · exact sound.predicates other old
    · obtain rfl := List.mem_singleton.mp new
      exact ⟨op, fieldType, sourced, made, typed⟩
  orderBy := sound.orderBy

theorem Sound.add_order {plan : QueryPlan} {column : ColumnPath} {direction : SortDirection}
    {fieldType : FieldType} (sound : plan.Sound schema root rootAlias config filters)
    (sourced : Sourced schema root rootAlias config filters plan.joins column .sort fieldType) :
    (plan.add (.order column direction)).Sound schema root rootAlias config filters where
  table := sound.table
  tableAlias := sound.tableAlias
  joins := sound.joins
  predicates := sound.predicates
  orderBy other member := by
    rcases List.mem_append.mp member with old | new
    · exact sound.orderBy other old
    · obtain rfl := List.mem_singleton.mp new
      exact ⟨fieldType, sourced⟩

theorem joins_prefix_add (plan : QueryPlan) (step : QueryStep) :
    plan.joins <+: (plan.add step).joins := by
  cases step with
  | join join => exact List.prefix_append ..
  | restrict predicate => exact List.prefix_rfl
  | order column direction => exact List.prefix_rfl

end QueryPlan

/-! ### What an instruction compares -/

theorem makes_of_of? {op : Operator} {value : FilterValue} {comparison : Comparison}
    (found : Instruction.of? op value = some (.restrict comparison)) :
    op.makes comparison = true ∧ (op ≠ .like → comparison.operands = value.scalars) := by
  unfold Instruction.of? at found
  split at found
  all_goals cases found
  all_goals first
    | exact ⟨rfl, fun _ => rfl⟩
    | exact ⟨rfl, fun other => absurd rfl other⟩

theorem eq_sort_of_of? {op : Operator} {value : FilterValue} {direction : SortDirection}
    (found : Instruction.of? op value = some (.order direction)) : op = .sort := by
  unfold Instruction.of? at found
  split at found
  all_goals cases found
  rfl

theorem exists_like_of_makes {comparison : Comparison}
    (made : Operator.like.makes comparison = true) : ∃ pattern, comparison = .like pattern := by
  cases comparison with
  | like pattern => exact ⟨pattern, rfl⟩
  | _ => exact nomatch made

/-! ### Entries -/

theorem columnOf_of_metadata? {entity : Entity} {field column : String} {fieldType : FieldType}
    {metadata : FieldMetadata} (found : entity.metadata? field = some metadata)
    (comparable : metadata.isComparable = true)
    (resolved : metadata.column schema = .ok (column, fieldType)) :
    ColumnOf schema entity field column fieldType := by
  cases metadata with
  | scalar declaration =>
    obtain ⟨rfl, rfl⟩ := Prod.mk.inj (Except.ok.inj resolved)
    refine .scalar ?_
    unfold Entity.metadata? at found
    cases declared : entity.scalarField? field with
    | some other => simpa [declared] using found
    | none => simp [declared] at found
  | association link =>
    have declared := Entity.metadata?_eq_association_iff.mp found
    have kind : link.kind = .belongsTo := by
      simpa [FieldMetadata.isComparable, Association.isOwning] using comparable
    cases aimed : schema.entity? link.target with
    | none => simp [FieldMetadata.column, Schema.declared, aimed, Except.map] at resolved
    | some target =>
      simp only [FieldMetadata.column, Schema.declared, aimed, Except.map, Except.ok.injEq,
        Prod.mk.injEq] at resolved
      obtain ⟨rfl, rfl⟩ := resolved
      exact .belongsTo declared kind aimed

theorem QueryPlan.Sound.add_filter {plan : QueryPlan} {path : List String} {entity : Entity}
    {tableAlias key raw : String} {filter : ResolvedFilter}
    (sound : plan.Sound schema root rootAlias config filters)
    (scope : InScope schema root rootAlias plan.joins path entity tableAlias)
    (found : filters.HasEntry path key (.text raw))
    (passes : Passes schema config entity key raw filter) :
    (plan.add (filter.step tableAlias)).Sound schema root rootAlias config filters := by
  obtain ⟨metadata, fieldType, value, named, comparable, column, decoded, instruction⟩ :=
    passes.compared
  have sourced : Sourced schema root rootAlias config filters plan.joins
      ⟨tableAlias, filter.column⟩ filter.operator fieldType :=
    ⟨path, entity, key, raw, filter.field, scope, found, passes.decoded, passes.isEnabled,
      passes.filterable, columnOf_of_metadata? named comparable column⟩
  unfold ResolvedFilter.step
  split
  · rename_i comparison restrict
    rw [restrict] at instruction
    obtain ⟨made, operands⟩ := makes_of_of? instruction
    refine sound.add_restrict sourced made fun noPattern => ?_
    have comparing : filter.operator ≠ .like := by
      intro like
      obtain ⟨pattern, same⟩ := exists_like_of_makes (like ▸ made)
      exact noPattern pattern same
    change ∀ v ∈ comparison.operands, v.HasType fieldType
    rw [operands comparing]
    exact FilterValue.hasType_of_decode decoded comparing
  · rename_i direction order
    rw [order] at instruction
    exact sound.add_order (eq_sort_of_of? instruction ▸ sourced)

theorem InScope.joinSourced {joins : List Join} {path : List String} {entity target : Entity}
    {tableAlias key : String} {inner : FilterMap} {association : Association}
    (scope : InScope schema root rootAlias joins path entity tableAlias)
    (found : filters.HasEntry path key (.nested inner))
    (resolved : resolveRelationship config entity key = .applied association)
    (aimed : schema.declared association.target = .ok target) :
    JoinSourced schema root rootAlias config filters joins
      (association.join tableAlias target.table) := by
  obtain ⟨enabled, declared⟩ := resolveRelationship_eq_applied_iff.mp resolved
  obtain rfl := Entity.name_of_association? declared
  exact ⟨enabled, scope.alias_mem, path, entity, inner, association, target, scope, found, declared,
    declared_eq_ok_iff.mp aimed, rfl⟩

theorem InScope.add_join {plan : QueryPlan} {path : List String} {entity target : Entity}
    {tableAlias key : String} {association : Association}
    (scope : InScope schema root rootAlias plan.joins path entity tableAlias)
    (resolved : resolveRelationship config entity key = .applied association)
    (aimed : schema.declared association.target = .ok target) :
    InScope schema root rootAlias
      (plan.add (.join (association.join tableAlias target.table))).joins (path ++ [key]) target
      association.name := by
  obtain ⟨-, declared⟩ := resolveRelationship_eq_applied_iff.mp resolved
  obtain rfl := Entity.name_of_association? declared
  exact .follow (scope.mono (List.subset_append_left _ _)) declared (declared_eq_ok_iff.mp aimed)
    (List.mem_append_right _ (List.mem_singleton_self _))

/-! ### Runs -/

/-- The plan is sound, and its joins begin with those of `start`. -/
def QueryPlan.SoundFrom (schema : Schema) (root : Entity) (rootAlias : String)
    (config : FilterConfig) (filters : FilterMap) (start plan : QueryPlan) : Prop :=
  plan.Sound schema root rootAlias config filters ∧ start.joins <+: plan.joins

theorem QueryPlan.SoundFrom.trans {start middle plan : QueryPlan}
    (first : SoundFrom schema root rootAlias config filters start middle)
    (second : SoundFrom schema root rootAlias config filters middle plan) :
    SoundFrom schema root rootAlias config filters start plan :=
  ⟨second.1, first.2.trans second.2⟩

theorem Outcome.query_andThen {Q : Type} {motive : Q → Prop} {outcome : Outcome Q}
    {next : Q → AliasMap → Outcome Q} (first : motive outcome.query)
    (second : motive outcome.query → motive (next outcome.query outcome.aliases).query) :
    motive (outcome.andThen next).query := by
  unfold andThen
  split
  · exact second first
  · exact first

section
variable {path : List String} {entity : Entity} {tableAlias : String} {plan : QueryPlan}

theorem sound_applyFilter {key raw : String} (aliases : AliasMap)
    (found : filters.HasEntry path key (.text raw))
    (scope : InScope schema root rootAlias plan.joins path entity tableAlias)
    (sound : plan.Sound schema root rootAlias config filters) :
    QueryPlan.SoundFrom schema root rootAlias config filters plan
      (applyFilter schema config entity tableAlias key raw plan aliases).query := by
  unfold applyFilter
  cases resolved : resolveFilter schema config entity key raw with
  | error error => exact ⟨sound, List.prefix_rfl⟩
  | ok resolution =>
    cases resolution with
    | skipped reason => exact ⟨sound, List.prefix_rfl⟩
    | applied filter =>
      have passes := resolveFilter_eq_applied_iff.mp resolved
      exact ⟨sound.add_filter scope found passes, plan.joins_prefix_add _⟩

theorem sound_applyMap {part : FilterMap} (aliases : AliasMap)
    (within : ∀ entry ∈ part.entries, filters.HasEntry path entry.1 entry.2)
    (scope : InScope schema root rootAlias plan.joins path entity tableAlias)
    (sound : plan.Sound schema root rootAlias config filters) :
    QueryPlan.SoundFrom schema root rootAlias config filters plan
      (applyMap schema config part entity tableAlias plan aliases).query := by
  induction part generalizing path entity tableAlias plan aliases with
  | empty => exact ⟨sound, List.prefix_rfl⟩
  | text key raw rest ih =>
    obtain ⟨found, later⟩ := List.forall_mem_cons.mp within
    refine Outcome.query_andThen (sound_applyFilter aliases found scope sound) fun grown => ?_
    exact grown.trans (ih _ later (scope.mono grown.2.subset) grown.1)
  | nested key inner rest ihInner ihRest =>
    obtain ⟨found, later⟩ := List.forall_mem_cons.mp within
    refine Outcome.query_andThen
      (motive := QueryPlan.SoundFrom schema root rootAlias config filters plan) ?entry fun grown => ?_
    case entry =>
      cases resolved : resolveRelationship config entity key with
      | skipped reason => exact ⟨sound, List.prefix_rfl⟩
      | applied association =>
        cases aimed : schema.declared association.target with
        | error error => simpa only [aimed] using ⟨sound, List.prefix_rfl⟩
        | ok target =>
          have joined := sound.add_join (scope.joinSourced found resolved aimed)
          have inside := ihInner (aliases.insert entity.name tableAlias)
            (fun _ member => found.snoc member) (scope.add_join resolved aimed) joined
          simpa only [aimed] using ⟨inside.1, (plan.joins_prefix_add _).trans inside.2⟩
    exact grown.trans (ihRest _ later (scope.mono grown.2.subset) grown.1)

end

end

theorem exists_root_of_apply {Q : Type} [QueryTarget Q] {a : Applicator} {filters : FilterMap}
    {query : Q} (applied : (a.apply filters).1 = .ok query) :
    ∃ root, a.schema.declared a.root = .ok root := by
  cases declared : a.schema.declared a.root with
  | error error => simp [Applicator.apply, declared] at applied
  | ok root => exact ⟨root, rfl⟩

theorem sound_of_declared {a : Applicator} {root : Entity} {filters : FilterMap} {plan : QueryPlan}
    (declared : a.schema.declared a.root = .ok root) (applied : (a.apply filters).1 = .ok plan) :
    plan.Sound a.schema root a.entityAlias a.config filters := by
  simp only [Applicator.apply, declared, Applicator.applyTo] at applied
  obtain rfl := Outcome.query_of_result applied
  exact (sound_applyMap a.aliases (fun _ listed => .here listed) .root
    QueryPlan.sound_selectFrom).1

/-- Every plan that application makes is sound. -/
theorem sound_of_apply {a : Applicator} {filters : FilterMap} {plan : QueryPlan}
    (applied : (a.apply filters).1 = .ok plan) :
    ∃ root, a.schema.entity? a.root = some root ∧
      plan.Sound a.schema root a.entityAlias a.config filters := by
  obtain ⟨root, declared⟩ := exists_root_of_apply applied
  exact ⟨root, declared_eq_ok_iff.mp declared, sound_of_declared declared applied⟩

theorem sound_of_apply_concerts : ∃ root, Schema.concerts.entity? "performance" = some root ∧
    QueryPlan.Sound .concerts root "entity" { relationships := true }
      (.nested "artist" (.text "id|in" "1,9223372036854775808" .empty)
        (.text "previous" "7" (.text "day|sort" "asc" .empty)))
      { table := "performances"
        tableAlias := "entity"
        joins := [⟨"entity", "artists", "artist", "artist_id", "id"⟩]
        predicates :=
          [⟨⟨"artist", "id"⟩, .within [.int 1, .bigUnsigned 9223372036854775808]⟩,
            ⟨⟨"entity", "previous_id"⟩, .eq (.int 7)⟩]
        orderBy := [(⟨"entity", "day"⟩, .asc)] } :=
  sound_of_apply
    (a := { schema := .concerts, root := "performance", config := { relationships := true } })
    (by decide +kernel)

end QueryFilter
