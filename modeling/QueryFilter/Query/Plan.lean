import QueryFilter.Query.Step

/-!
# Query plans

A plan records the steps it took, each kind in a list of its own, in the order it took them.
-/

namespace QueryFilter

structure QueryPlan where
  table : String
  tableAlias : String
  joins : List Join := []
  predicates : List Predicate := []
  orderBy : List (ColumnPath × SortDirection) := []
  deriving DecidableEq

namespace QueryPlan

def add (plan : QueryPlan) : QueryStep → QueryPlan
  | .join join => { plan with joins := plan.joins ++ [join] }
  | .restrict predicate => { plan with predicates := plan.predicates ++ [predicate] }
  | .order column direction => { plan with orderBy := plan.orderBy ++ [(column, direction)] }

instance : QueryTarget QueryPlan where
  selectFrom table tableAlias := { table, tableAlias }
  add := add

/-- The steps of the plan: the joins, then the predicates, then the sort columns. -/
def steps (plan : QueryPlan) : List QueryStep :=
  plan.joins.map .join ++ plan.predicates.map .restrict ++
    plan.orderBy.map fun (column, direction) => .order column direction

def replay (Q : Type) [QueryTarget Q] (plan : QueryPlan) : Q :=
  QueryTarget.addAll (QueryTarget.selectFrom plan.table plan.tableAlias) plan.steps

end QueryPlan

end QueryFilter
