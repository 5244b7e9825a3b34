import QueryFilter.Sql.Select

/-!
# Steps by kind

A plan and a statement keep each kind of step in a list of its own. What a run of steps adds to
them is the steps of that kind, in their order.
-/

namespace QueryFilter

namespace QueryStep

@[simp]
def join? : QueryStep → Option Join
  | join j => some j
  | restrict _ | order .. => none

@[simp]
def predicate? : QueryStep → Option Predicate
  | restrict predicate => some predicate
  | join _ | order .. => none

@[simp]
def order? : QueryStep → Option (ColumnPath × SortDirection)
  | order column direction => some (column, direction)
  | join _ | restrict _ => none

theorem join?_eq_some_iff {step : QueryStep} {j : Join} :
    step.join? = some j ↔ step = join j := by
  cases step <;> simp

theorem predicate?_eq_some_iff {step : QueryStep} {predicate : Predicate} :
    step.predicate? = some predicate ↔ step = restrict predicate := by
  cases step <;> simp

end QueryStep

namespace QueryPlan

theorem addAll_eq (plan : QueryPlan) (steps : List QueryStep) :
    QueryTarget.addAll plan steps =
      { plan with
        joins := plan.joins ++ steps.filterMap QueryStep.join?
        predicates := plan.predicates ++ steps.filterMap QueryStep.predicate?
        orderBy := plan.orderBy ++ steps.filterMap QueryStep.order? } := by
  induction steps generalizing plan with
  | nil => simp [QueryTarget.addAll]
  | cons step rest ih =>
    have tail := ih (plan.add step)
    have next : QueryTarget.addAll plan (step :: rest) = QueryTarget.addAll (plan.add step) rest :=
      rfl
    rw [next, tail]
    cases step with
    | join join => simp [add, List.filterMap_cons]
    | restrict predicate => simp [add, List.filterMap_cons]
    | order column direction => simp [add, List.filterMap_cons]

theorem mem_joins_addAll {plan : QueryPlan} {steps : List QueryStep} {join : Join} :
    join ∈ (QueryTarget.addAll plan steps).joins ↔ join ∈ plan.joins ∨ .join join ∈ steps := by
  simp only [addAll_eq, List.mem_append, List.mem_filterMap, QueryStep.join?_eq_some_iff,
    exists_eq_right]

theorem mem_predicates_addAll {plan : QueryPlan} {steps : List QueryStep} {predicate : Predicate} :
    predicate ∈ (QueryTarget.addAll plan steps).predicates ↔
      predicate ∈ plan.predicates ∨ .restrict predicate ∈ steps := by
  simp only [addAll_eq, List.mem_append, List.mem_filterMap, QueryStep.predicate?_eq_some_iff,
    exists_eq_right]

/-- Every step of a run adds one join, one predicate or one sort column. -/
theorem size_addAll (plan : QueryPlan) (steps : List QueryStep) :
    let grown := QueryTarget.addAll plan steps
    grown.joins.length + grown.predicates.length + grown.orderBy.length =
      plan.joins.length + plan.predicates.length + plan.orderBy.length + steps.length := by
  induction steps generalizing plan with
  | nil => rfl
  | cons step rest ih =>
    have tail := ih (plan.add step)
    have next : QueryTarget.addAll plan (step :: rest) = QueryTarget.addAll (plan.add step) rest :=
      rfl
    dsimp only at tail ⊢
    rw [next, tail, List.length_cons]
    cases step <;> simp only [add, List.length_append, List.length_singleton] <;> omega

theorem joins_steps (plan : QueryPlan) : plan.steps.filterMap QueryStep.join? = plan.joins := by
  simp [steps, List.filterMap_map, Function.comp_def]

theorem predicates_steps (plan : QueryPlan) :
    plan.steps.filterMap QueryStep.predicate? = plan.predicates := by
  have joins : plan.joins.filterMap (fun _ => (none : Option Predicate)) = [] := by simp
  have orders : plan.orderBy.filterMap (fun _ => (none : Option Predicate)) = [] := by simp
  simp [steps, List.filterMap_map, Function.comp_def, joins, orders]

theorem orderBy_steps (plan : QueryPlan) :
    plan.steps.filterMap QueryStep.order? = plan.orderBy := by
  have joins :
      plan.joins.filterMap (fun _ => (none : Option (ColumnPath × SortDirection))) = [] := by simp
  have predicates :
      plan.predicates.filterMap (fun _ => (none : Option (ColumnPath × SortDirection))) = [] := by
    simp
  simp [steps, List.filterMap_map, Function.comp_def, joins, predicates]

end QueryPlan

theorem Sql.Select.addAll_eq (select : Select) (steps : List QueryStep) :
    QueryTarget.addAll select steps =
      { select with
        joins := select.joins ++ (steps.filterMap QueryStep.join?).map .ofJoin
        conditions := select.conditions ++ (steps.filterMap QueryStep.predicate?).map .ofPredicate
        orderBy := select.orderBy ++ steps.filterMap QueryStep.order? } := by
  induction steps generalizing select with
  | nil => simp [QueryTarget.addAll]
  | cons step rest ih =>
    have tail := ih (select.add step)
    have next :
        QueryTarget.addAll select (step :: rest) = QueryTarget.addAll (select.add step) rest := rfl
    rw [next, tail]
    cases step with
    | join join => simp [add, List.filterMap_cons]
    | restrict predicate => simp [add, List.filterMap_cons]
    | order column direction => simp [add, List.filterMap_cons]

theorem QueryPlan.toSelect_eq (plan : QueryPlan) :
    plan.toSelect =
      { table := plan.table
        tableAlias := plan.tableAlias
        joins := plan.joins.map .ofJoin
        conditions := plan.predicates.map .ofPredicate
        orderBy := plan.orderBy } := by
  unfold toSelect replay
  rw [Sql.Select.addAll_eq, joins_steps, predicates_steps, orderBy_steps]
  rfl

end QueryFilter
