import Mathlib.Logic.Relation
import QueryFilter.Proofs.Agreement
import QueryFilter.Proofs.Document
import QueryFilter.Schema.Concerts

/-!
# Holes in a schema

Filters only ever lead to entities that associations reach from the root. An unknown entity is
therefore met exactly if there is a hole among these, and each hole is met by the filters that
follow the associations to it (`unknownEntity_iff_reachable_hole`).
-/

namespace QueryFilter

namespace Schema

/-- An association of the entity `name`, of whatever kind, has `target`, declared or not. -/
def Leads (schema : Schema) (name target : String) : Prop :=
  ∃ entity key association, schema.entity? name = some entity ∧
    entity.association? key = some association ∧ association.target = target

/-- The least set of names that has the root and, with a declared entity, the targets of all its
associations. -/
def Reachable (schema : Schema) (root : String) : String → Prop :=
  Relation.ReflTransGen schema.Leads root

theorem eq_of_reachable_of_undeclared {schema : Schema} {name other : String}
    (reach : schema.Reachable name other) (undeclared : schema.entity? name = none) :
    name = other := by
  rcases Relation.ReflTransGen.cases_head reach with same | ⟨next, leads, -⟩
  · exact same
  · obtain ⟨entity, key, association, declared, -⟩ := leads
    rw [undeclared] at declared
    exact nomatch declared

/-- Every association of every entity has a declared target. -/
def IsClosed (schema : Schema) : Prop :=
  ∀ named ∈ schema.entities.entries, ∀ link ∈ named.2.associations.entries,
    (schema.entity? link.2.target).isSome = true

instance (schema : Schema) : Decidable schema.IsClosed := by
  unfold IsClosed
  infer_instance

end Schema

theorem Dict.mem_entries_of_get? {α : Type} {d : Dict α} {key : String} {value : α}
    (found : d.get? key = some value) : (key, value) ∈ d.entries := by
  obtain ⟨before, after, same, -⟩ := List.lookup_eq_some_iff.mp found
  rw [same]
  exact List.mem_append_right _ List.mem_cons_self

theorem Schema.IsClosed.declared_of_reachable {schema : Schema} {root name : String}
    (closed : schema.IsClosed) (declared : (schema.entity? root).isSome = true)
    (reach : schema.Reachable root name) : (schema.entity? name).isSome = true := by
  induction reach with
  | refl => exact declared
  | tail _ leads _ =>
    obtain ⟨entity, key, association, found, linked, rfl⟩ := leads
    exact closed _ (Dict.mem_entries_of_get? found) _ (Dict.mem_entries_of_get? linked)

section
variable {schema : Schema} {config : FilterConfig}

/-! ### Filters stay within what can be reached -/

theorem Context.enter?_eq_some_iff {context target : Context} {key : String} :
    context.enter? schema config key = some target ↔
      ∃ association, resolveRelationship config context.entity key = .applied association ∧
        schema.entity? association.target = some target.entity ∧
        association.name = target.tableAlias := by
  obtain ⟨entity, tableAlias⟩ := target
  unfold enter?
  cases resolveRelationship config context.entity key with
  | skipped reason => simp
  | applied association =>
    constructor
    · intro entered
      obtain ⟨found, aimed, same⟩ := Option.map_eq_some_iff.mp entered
      obtain ⟨rfl, rfl⟩ := Context.mk.inj same
      exact ⟨association, rfl, aimed, rfl⟩
    · rintro ⟨_, ⟨⟩, aimed, rfl⟩
      exact Option.map_eq_some_iff.mpr ⟨entity, aimed, rfl⟩

theorem Context.reachable_of_reach? {root context : Context} {path : List String} {name : String}
    (declared : schema.entity? name = some root.entity)
    (reached : root.reach? schema config path = some context) :
    ∃ inner, schema.Reachable name inner ∧ schema.entity? inner = some context.entity := by
  induction path generalizing root name with
  | nil =>
    obtain rfl := Option.some.inj reached
    exact ⟨name, .refl, declared⟩
  | cons key path ih =>
    obtain ⟨target, entered, onward⟩ := Option.bind_eq_some_iff.mp reached
    obtain ⟨association, followed, aimed, -⟩ := enter?_eq_some_iff.mp entered
    obtain ⟨-, linked⟩ := resolveRelationship_eq_applied_iff.mp followed
    obtain ⟨inner, reach, found⟩ := ih aimed onward
    exact ⟨inner, .head ⟨_, key, association, declared, linked, rfl⟩ reach, found⟩

theorem Context.Fails.leads {context : Context} {name key hole : String} {entry : FilterEntry}
    (fails : context.Fails schema config key entry (.unknownEntity hole))
    (declared : schema.entity? name = some context.entity) :
    schema.Leads name hole ∧ schema.entity? hole = none := by
  have linked : ∃ field link, context.entity.association? field = some link ∧
      schema.declared link.target = .error (.unknownEntity hole) := by
    cases entry with
    | text raw => exact hole_of_resolveFilter fails
    | nested inner =>
      obtain ⟨association, followed, undeclared⟩ := fails
      exact ⟨key, association, (resolveRelationship_eq_applied_iff.mp followed).2, undeclared⟩
  obtain ⟨field, link, found, undeclared⟩ := linked
  obtain ⟨rfl, absent⟩ := declared_eq_hole_iff.mp undeclared
  exact ⟨⟨_, field, link, declared, found, rfl⟩, absent⟩

theorem hole_of_mem_walk {filters : FilterMap} (root : Context) {name hole : String} {visit : Visit}
    (declared : schema.entity? name = some root.entity)
    (member : visit ∈ walk schema config filters root.entity root.tableAlias)
    (failed : visit.failure? = some (.unknownEntity hole)) :
    schema.Reachable name hole ∧ schema.entity? hole = none := by
  obtain ⟨path, key, entry, context, -, reached, rfl⟩ := (mem_walk_iff root).mp member
  have fails := Verdict.ofEntry_eq_failed_iff.mp (failed_of_failure? failed)
  obtain ⟨inner, reach, found⟩ := Context.reachable_of_reach? declared reached
  obtain ⟨leads, undeclared⟩ := fails.leads found
  exact ⟨reach.tail leads, undeclared⟩

/-! ### Every hole is met -/

/-- The filters follow the associations and hold nothing else, so no list of fields or operators
stands in their way. -/
theorem exists_filters_of_reachable {name hole : String} (enabled : config.relationships = true)
    (reach : schema.Reachable name hole) (undeclared : schema.entity? hole = none) :
    ∃ filters : FilterMap, filters.Distinct ∧ ∀ context : Context,
      schema.entity? name = some context.entity →
        (walk schema config filters context.entity context.tableAlias).findSome? Visit.failure? =
          some (.unknownEntity hole) := by
  induction reach using Relation.ReflTransGen.head_induction_on with
  | refl =>
    refine ⟨.empty, trivial, fun context declared => ?_⟩
    rw [undeclared] at declared
    exact nomatch declared
  | head leads onward ih =>
    obtain ⟨entity, key, association, declared, linked, rfl⟩ := leads
    obtain ⟨inner, distinct, fails⟩ := ih
    refine ⟨.nested key inner .empty, ⟨List.not_mem_nil, distinct, trivial⟩, fun context same => ?_⟩
    rw [declared] at same
    obtain rfl := Option.some.inj same
    have followed : resolveRelationship config context.entity key = .applied association :=
      resolveRelationship_eq_applied_iff.mpr ⟨enabled, linked⟩
    rw [walk, followed]
    cases aimed : schema.entity? association.target with
    | none =>
      -- The hole is the target itself.
      obtain rfl := Schema.eq_of_reachable_of_undeclared onward aimed
      simp only [Schema.declared, aimed]
      rfl
    | some target =>
      simp only [Schema.declared, aimed, walk, List.append_nil]
      exact fails ⟨target, association.name⟩ aimed

end

/-! ### Whole runs -/

section
variable {Q : Type} [QueryTarget Q] {a : Applicator} {hole : String}

theorem hole_of_root {name : String}
    (failed : a.schema.declared name = .error (.unknownEntity hole)) :
    a.schema.Reachable name hole ∧ a.schema.entity? hole = none := by
  obtain ⟨rfl, undeclared⟩ := declared_eq_hole_iff.mp failed
  exact ⟨.refl, undeclared⟩

theorem hole_of_apply {filters : FilterMap}
    (failed : (a.apply (Q := Q) filters).1 = .error (.unknownEntity hole)) :
    a.schema.Reachable a.root hole ∧ a.schema.entity? hole = none := by
  cases declared : a.schema.declared a.root with
  | error error =>
    simp only [Applicator.apply, declared] at failed
    obtain rfl := Except.error.inj failed
    exact hole_of_root declared
  | ok root =>
    rw [result_apply filters declared] at failed
    obtain ⟨visit, member, failure⟩ :=
      List.exists_of_findSome?_eq_some (result_ofVisits_eq_error_iff.mp failed)
    exact hole_of_mem_walk ⟨root, a.entityAlias⟩ (declared_eq_ok_iff.mp declared) member failure

theorem hole_of_validate {filters : FilterMap}
    (failed : validate a.schema a.root a.config filters = .error (.unknownEntity hole)) :
    a.schema.Reachable a.root hole ∧ a.schema.entity? hole = none := by
  cases declared : a.schema.declared a.root with
  | error error =>
    simp only [validate, declared, Except.bind] at failed
    obtain rfl := Except.error.inj failed
    exact hole_of_root declared
  | ok root =>
    rw [validate_eq_ofVisits a.config filters a.entityAlias declared] at failed
    obtain ⟨visit, member, fault⟩ :=
      List.exists_of_findSome?_eq_some (Report.ofVisits_eq_error_iff.mp failed)
    obtain ⟨failure, -⟩ := Option.filter_eq_some_iff.mp fault
    exact hole_of_mem_walk ⟨root, a.entityAlias⟩ (declared_eq_ok_iff.mp declared) member failure

theorem exists_filters_of_hole (enabled : a.config.relationships = true)
    (reach : a.schema.Reachable a.root hole) (undeclared : a.schema.entity? hole = none) :
    ∃ filters : FilterMap, filters.Distinct ∧
      (a.apply (Q := Q) filters).1 = .error (.unknownEntity hole) ∧
      validate a.schema a.root a.config filters = .error (.unknownEntity hole) := by
  cases declared : a.schema.entity? a.root with
  | none =>
    obtain rfl := Schema.eq_of_reachable_of_undeclared reach declared
    refine ⟨.empty, trivial, ?_, ?_⟩
    · simp only [Applicator.apply, Schema.declared, declared]
    · simp only [validate, Schema.declared, declared, Except.bind]
  | some root =>
    obtain ⟨filters, distinct, fails⟩ := exists_filters_of_reachable enabled reach undeclared
    have failure := fails ⟨root, a.entityAlias⟩ declared
    have fault := faults_of_failures failure rfl
    have present := declared_eq_ok_iff.mpr declared
    refine ⟨filters, distinct, ?_, ?_⟩
    · rw [result_apply filters present]
      exact result_ofVisits_eq_error_iff.mpr failure
    · rw [validate_eq_ofVisits a.config filters a.entityAlias present]
      exact Report.ofVisits_eq_error_iff.mpr fault

theorem exists_report_of_closed {filters : FilterMap}
    (closed : ∀ name, a.schema.Reachable a.root name → (a.schema.entity? name).isSome = true) :
    ∃ report, validate a.schema a.root a.config filters = .ok report := by
  cases validated : validate a.schema a.root a.config filters with
  | ok report => exact ⟨report, rfl⟩
  | error error =>
    obtain ⟨name, rfl⟩ := unknownEntity_of_validate validated
    obtain ⟨reach, undeclared⟩ := hole_of_validate validated
    simpa [undeclared] using closed name reach

end

/-- An unknown entity is always a hole that associations reach from the root, and where filters may
follow associations each such hole is met. -/
theorem unknownEntity_iff_reachable_hole {Q : Type} [QueryTarget Q] (a : Applicator) :
    (∀ (filters : FilterMap) (name : String),
      (a.apply (Q := Q) filters).1 = .error (.unknownEntity name) ∨
          validate a.schema a.root a.config filters = .error (.unknownEntity name) →
        a.schema.Reachable a.root name ∧ a.schema.entity? name = none) ∧
    (a.config.relationships = true → ∀ name,
      ((∃ filters : FilterMap, filters.Distinct ∧
          (a.apply (Q := Q) filters).1 = .error (.unknownEntity name)) ↔
        a.schema.Reachable a.root name ∧ a.schema.entity? name = none) ∧
      ((∃ filters : FilterMap, filters.Distinct ∧
          validate a.schema a.root a.config filters = .error (.unknownEntity name)) ↔
        a.schema.Reachable a.root name ∧ a.schema.entity? name = none)) ∧
    ((∀ name, a.schema.Reachable a.root name → (a.schema.entity? name).isSome = true) →
      ∀ filters : FilterMap,
        (∃ report, validate a.schema a.root a.config filters = .ok report) ∧
        ∀ error, (a.apply (Q := Q) filters).1 = .error error →
          ∃ field fieldType value, error = .invalidValue field fieldType value) := by
  refine ⟨fun filters name failed => ?_, fun enabled name => ?_,
    fun closed filters => ⟨exists_report_of_closed closed, fun error failed => ?_⟩⟩
  · rcases failed with failed | failed
    · exact hole_of_apply failed
    · exact hole_of_validate failed
  · have met : a.schema.Reachable a.root name ∧ a.schema.entity? name = none →
        ∃ filters : FilterMap, filters.Distinct ∧
          (a.apply (Q := Q) filters).1 = .error (.unknownEntity name) ∧
          validate a.schema a.root a.config filters = .error (.unknownEntity name) :=
      fun ⟨reach, undeclared⟩ => exists_filters_of_hole enabled reach undeclared
    constructor
    · constructor
      · rintro ⟨filters, -, failed⟩
        exact hole_of_apply failed
      · intro hole
        obtain ⟨filters, distinct, failed, -⟩ := met hole
        exact ⟨filters, distinct, failed⟩
    · constructor
      · rintro ⟨filters, -, failed⟩
        exact hole_of_validate failed
      · intro hole
        obtain ⟨filters, distinct, -, failed⟩ := met hole
        exact ⟨filters, distinct, failed⟩
  · cases failure_of_apply failed with
    | hole name =>
      obtain ⟨reach, undeclared⟩ := hole_of_apply failed
      simpa [undeclared] using closed name reach
    | mistyped field fieldType value => exact ⟨field, fieldType, value, rfl⟩

/-- Recordings and performances lead to each other, and recordings to a label that nobody declared,
also where no field and no operator is allowed. -/
theorem unknownEntity_iff_reachable_hole_label :
    let recording := Entity.declare "recording" "recordings"
    let performance := Entity.declare "performance" "performances"
    let schema : Schema := .ofEntities
      [(recording.withAssociation .belongsTo "performance" "performance" "performance_id"
          "id").withAssociation .belongsTo "label" "label" "label_id" "id",
        performance.withAssociation .hasMany "recordings" "recording" "id" "performance_id"]
    let config : FilterConfig :=
      { operators := OperatorSet.all.removeAll (Operator.all.map Operator.token)
        filterable := .ofNames []
        relationships := true }
    let a : Applicator := { schema, root := "performance", config }
    let direct : Applicator := { schema, root := "recording" }
    (∃ filters : FilterMap, filters.Distinct ∧
        (a.apply (Q := QueryPlan) filters).1 = .error (.unknownEntity "label")) ∧
      (∃ filters : FilterMap, filters.Distinct ∧
        validate a.schema a.root a.config filters = .error (.unknownEntity "label")) ∧
      (direct.apply (Q := QueryPlan) (.text "label" "7" .empty)).1 =
        .error (.unknownEntity "label") ∧
      schema.Reachable "recording" "label" ∧
      ∃ report, validate .concerts "performance" {} (.text "day" "soon" .empty) = .ok report := by
  intro recording performance schema config a direct
  have failed : (direct.apply (Q := QueryPlan) (.text "label" "7" .empty)).1 =
      .error (.unknownEntity "label") := by decide +kernel
  obtain ⟨reached, -, -⟩ := unknownEntity_iff_reachable_hole (Q := QueryPlan) direct
  obtain ⟨onward, undeclared⟩ := reached _ _ (.inl failed)
  have first : schema.Leads "performance" "recording" :=
    ⟨(schema.entity? "performance").get (by decide +kernel), "recordings",
      ⟨"recordings", "recording", .hasMany, "id", "performance_id"⟩, by decide +kernel,
      by decide +kernel, rfl⟩
  have hole : schema.Reachable "performance" "label" := .head first onward
  obtain ⟨-, met, -⟩ := unknownEntity_iff_reachable_hole (Q := QueryPlan) a
  obtain ⟨applied, validated⟩ := met rfl "label"
  have closed : Schema.concerts.IsClosed := by decide +kernel
  let concerts : Applicator := { schema := .concerts, root := "performance" }
  obtain ⟨-, -, reports⟩ := unknownEntity_iff_reachable_hole (Q := QueryPlan) concerts
  obtain ⟨reported, -⟩ := reports
    (fun _ reach => closed.declared_of_reachable (by decide +kernel) reach)
    (.text "day" "soon" .empty)
  exact ⟨applied.mpr ⟨hole, undeclared⟩, validated.mpr ⟨hole, undeclared⟩, failed, onward, reported⟩

end QueryFilter
