import Mathlib.Data.List.Nodup
import QueryFilter.Proofs.Agreement
import QueryFilter.Proofs.Scope
import QueryFilter.Proofs.Steps
import QueryFilter.Schema.Concerts

/-!
# Aliases of tables

A join takes the name of its association as its alias, wherever in the filters it stands. The
aliases of a plan are therefore the alias of the root and the keys of the nested entries, and a
column is ambiguous as soon as two of these are the same.
-/

namespace QueryFilter

/-- The keys of the nested entries of all levels, in the order in which they are met. -/
def FilterMap.nestedKeys : FilterMap → List String
  | empty => []
  | text _ _ rest => rest.nestedKeys
  | nested key inner rest => key :: inner.nestedKeys ++ rest.nestedKeys

namespace QueryPlan

/-- The aliases of the tables of a plan, first that of the root. -/
def tableAliases (plan : QueryPlan) : List String :=
  plan.tableAlias :: plan.joins.map Join.tableAlias

/-- The aliases that the columns of join conditions, predicates and sort columns go by. -/
def columnAliases (plan : QueryPlan) : List String :=
  plan.joins.flatMap (fun join => [join.parentAlias, join.tableAlias]) ++
    plan.predicates.map (fun predicate => predicate.column.tableAlias) ++
    plan.orderBy.map fun order => order.1.tableAlias

end QueryPlan

theorem ResolvedFilter.join?_step (filter : ResolvedFilter) (tableAlias : String) :
    (filter.step tableAlias).join? = none := by
  unfold step
  split <;> rfl

theorem Verdict.join?_ofText (schema : Schema) (config : FilterConfig) (entity : Entity)
    (tableAlias key raw : String) :
    (Verdict.ofText schema config entity tableAlias key raw).step?.bind QueryStep.join? = none := by
  unfold Verdict.ofText
  split
  · rename_i filter _
    split
    · exact filter.join?_step tableAlias
    · exact filter.join?_step tableAlias
  · rfl
  · rfl

/-! ### The joins of a walk without problems -/

theorem aliases_of_walk {schema : Schema} {config : FilterConfig} {filters : FilterMap}
    {entity : Entity} {tableAlias : String}
    (sound : ∀ v ∈ walk schema config filters entity tableAlias,
      v.failure? = none ∧ v.problem? = none) :
    (((walk schema config filters entity tableAlias).filterMap Visit.step?).filterMap
      QueryStep.join?).map Join.tableAlias = filters.nestedKeys := by
  rw [List.filterMap_filterMap]
  induction filters generalizing entity tableAlias with
  | empty => rfl
  | text key raw rest ih =>
    have later := ih fun v member => sound v (List.mem_cons_of_mem _ member)
    have noJoin := Verdict.join?_ofText schema config entity tableAlias key raw
    rw [walk, List.filterMap_cons_none (by exact noJoin)]
    exact later
  | nested key inner rest ihInner ihRest =>
    have later := ihRest fun v member => sound v (List.mem_append_right _ member)
    have front := fun v member => sound v (List.mem_append_left _ member)
    rw [walk, List.filterMap_append, List.map_append, later, FilterMap.nestedKeys]
    congr 1
    cases resolved : resolveRelationship config entity key with
    | skipped reason =>
      simp only [resolved] at front
      exact absurd (front _ (List.mem_singleton_self _)).2 (Option.some_ne_none _)
    | applied association =>
      simp only [resolved] at front ⊢
      cases aimed : schema.declared association.target with
      | error error =>
        simp only [aimed] at front
        exact absurd (front _ (List.mem_singleton_self _)).1 (Option.some_ne_none _)
      | ok target =>
        simp only [aimed] at front ⊢
        have name : association.name = key :=
          Entity.name_of_association? (resolveRelationship_eq_applied_iff.mp resolved).2
        have below := ihInner fun v member => front v (List.mem_cons_of_mem _ member)
        rw [List.filterMap_cons_some (by rfl), List.map_cons, below]
        exact congrArg (· :: _) name

/-! ### Plans -/

section
variable {a : Applicator} {filters : FilterMap} {plan : QueryPlan} {report : Report}

theorem tableAliases_of_apply
    (validated : validate a.schema a.root a.config filters = .ok report)
    (valid : report.isValid = true) (applied : (a.apply filters).1 = .ok plan) :
    plan.tableAliases = a.entityAlias :: filters.nestedKeys := by
  cases declared : a.schema.declared a.root with
  | error error => simp [validate, declared, Except.bind] at validated
  | ok root =>
    rw [validate_eq_ofVisits a.config filters a.entityAlias declared] at validated
    rw [result_apply filters declared] at applied
    obtain ⟨-, rfl⟩ := result_ofVisits_eq_query_iff.mp applied
    unfold QueryPlan.tableAliases
    rw [QueryPlan.addAll_eq, List.map_append, aliases_of_walk (problems_of_valid validated valid)]
    rfl

theorem columnAliases_subset (applied : (a.apply filters).1 = .ok plan) :
    ∀ name ∈ plan.columnAliases, name ∈ plan.tableAliases := by
  obtain ⟨root, declared⟩ := exists_root_of_apply applied
  have sound := sound_of_declared declared applied
  have inPlan : ∀ {path entity tableAlias}, InScope a.schema root a.entityAlias plan.joins path
      entity tableAlias → tableAlias ∈ plan.tableAliases := by
    intro path entity tableAlias scope
    rw [QueryPlan.tableAliases, sound.tableAlias]
    exact List.mem_cons.mpr scope.alias_mem
  intro name member
  rcases List.mem_append.mp member with member | member
  · rcases List.mem_append.mp member with member | member
    · obtain ⟨join, joined, member⟩ := List.mem_flatMap.mp member
      rcases List.mem_cons.mp member with rfl | member
      · obtain ⟨before, after, split⟩ := List.append_of_mem joined
        obtain ⟨-, -, path, entity, inner, association, target, scope, -⟩ :=
          sound.joins before join after split
        exact inPlan (scope.mono (split ▸ List.subset_append_left _ _))
      · rw [List.mem_singleton.mp member]
        exact List.mem_cons_of_mem _ (List.mem_map_of_mem joined)
    · obtain ⟨predicate, listed, rfl⟩ := List.mem_map.mp member
      obtain ⟨op, fieldType, ⟨path, entity, key, raw, field, scope, -⟩, -⟩ :=
        sound.predicates predicate listed
      exact inPlan scope
  · obtain ⟨order, listed, rfl⟩ := List.mem_map.mp member
    obtain ⟨fieldType, path, entity, key, raw, field, scope, -⟩ := sound.orderBy order listed
    exact inPlan scope

end

theorem QueryPlan.nodup_tableAliases_iff {plan : QueryPlan}
    (named : ∀ name ∈ plan.columnAliases, name ∈ plan.tableAliases) :
    plan.tableAliases.Nodup ↔ ∀ name ∈ plan.columnAliases, plan.tableAliases.count name = 1 := by
  constructor
  · intro distinct name member
    exact List.count_eq_one_of_mem distinct (named name member)
  · intro unique
    have joined : ∀ name ∈ plan.joins.map Join.tableAlias, plan.tableAliases.count name = 1 := by
      intro name member
      obtain ⟨join, listed, rfl⟩ := List.mem_map.mp member
      refine unique _ (List.mem_append_left _ (List.mem_append_left _ ?_))
      exact List.mem_flatMap.mpr ⟨join, listed, List.mem_cons_of_mem _ (List.mem_singleton_self _)⟩
    refine List.nodup_iff_count_le_one.mpr fun name => ?_
    by_cases member : name ∈ plan.joins.map Join.tableAlias
    · exact (joined name member).le
    · have root := List.count_eq_zero_of_not_mem member
      rw [tableAliases, List.count_cons, root]
      split <;> omega

/-- The aliases of the tables are distinct exactly if no key of a nested entry is met again and none
is the alias of the root. -/
theorem distinct_aliases_iff {a : Applicator} {filters : FilterMap} {plan : QueryPlan}
    {report : Report} (validated : validate a.schema a.root a.config filters = .ok report)
    (valid : report.isValid = true) (applied : (a.apply filters).1 = .ok plan) :
    plan.tableAliases = a.entityAlias :: filters.nestedKeys ∧
      (plan.tableAliases.Nodup ↔
        filters.nestedKeys.Nodup ∧ a.entityAlias ∉ filters.nestedKeys) ∧
      ((∀ name ∈ plan.columnAliases, plan.tableAliases.count name = 1) ↔
        filters.nestedKeys.Nodup ∧ a.entityAlias ∉ filters.nestedKeys) := by
  have aliases := tableAliases_of_apply validated valid applied
  have distinct : plan.tableAliases.Nodup ↔
      filters.nestedKeys.Nodup ∧ a.entityAlias ∉ filters.nestedKeys := by
    rw [aliases, List.nodup_cons]
    exact And.comm
  exact ⟨aliases, distinct,
    (QueryPlan.nodup_tableAliases_iff (columnAliases_subset applied)).symm.trans distinct⟩

theorem distinct_aliases_iff_concerts :
    let filters : FilterMap := .nested "artist" (.text "name" "Ada" .empty)
      (.nested "previous" (.text "state" "Utah" .empty) .empty)
    let plan : QueryPlan :=
      { table := "performances"
        tableAlias := "entity"
        joins := [⟨"entity", "artists", "artist", "artist_id", "id"⟩,
          ⟨"entity", "performances", "previous", "previous_id", "id"⟩]
        predicates := [⟨⟨"artist", "name"⟩, .eq (.text "Ada")⟩,
          ⟨⟨"previous", "state"⟩, .eq (.text "Utah")⟩] }
    plan.tableAliases = "entity" :: filters.nestedKeys ∧
      (plan.tableAliases.Nodup ↔ filters.nestedKeys.Nodup ∧ "entity" ∉ filters.nestedKeys) ∧
      ((∀ name ∈ plan.columnAliases, plan.tableAliases.count name = 1) ↔
        filters.nestedKeys.Nodup ∧ "entity" ∉ filters.nestedKeys) :=
  have validated : validate .concerts "performance" { relationships := true }
      (.nested "artist" (.text "name" "Ada" .empty)
        (.nested "previous" (.text "state" "Utah" .empty) .empty)) = .ok {} := by decide +kernel
  distinct_aliases_iff
    (a := { schema := .concerts, root := "performance", config := { relationships := true } })
    validated (by decide) (by decide +kernel)

/-- The performance before the one before is joined under the alias of the one before. -/
theorem aliases_of_previous_previous :
    let a : Applicator :=
      { schema := .concerts, root := "performance", config := { relationships := true } }
    let filters : FilterMap :=
      .nested "previous" (.nested "previous" (.text "state" "Utah" .empty) .empty) .empty
    let plan : QueryPlan :=
      { table := "performances"
        tableAlias := "entity"
        joins := [⟨"entity", "performances", "previous", "previous_id", "id"⟩,
          ⟨"previous", "performances", "previous", "previous_id", "id"⟩]
        predicates := [⟨⟨"previous", "state"⟩, .eq (.text "Utah")⟩] }
    validate a.schema a.root a.config filters = .ok {} ∧ (a.apply filters).1 = .ok plan ∧
      ¬ plan.tableAliases.Nodup ∧ "previous" ∈ plan.columnAliases ∧
      plan.tableAliases.count "previous" = 2 := by
  decide +kernel

end QueryFilter
