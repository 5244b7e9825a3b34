import QueryFilter.Scalar
import QueryFilter.SortDirection

/-!
# Query steps

What a filter adds to a query: a join, a predicate or a sort column. A `QueryTarget` is anything
that can start as the selection of one table and take such steps.
-/

namespace QueryFilter

/-- A column of the table that is selected or joined under `tableAlias`. -/
structure ColumnPath where
  tableAlias : String
  column : String
  deriving DecidableEq, Repr

def ColumnPath.render (path : ColumnPath) : String := path.tableAlias ++ "." ++ path.column

inductive Comparison where
  | eq (value : Scalar)
  | neq (value : Scalar)
  | gt (value : Scalar)
  | gte (value : Scalar)
  | lt (value : Scalar)
  | lte (value : Scalar)
  | between (low high : Scalar)
  /-- The pattern holds its wildcards already. -/
  | like (pattern : String)
  | within (values : List Scalar)
  | notWithin (values : List Scalar)
  | isNull
  | isNotNull
  deriving DecidableEq

/-- The values a comparison compares with, in the order in which it names them. -/
def Comparison.operands : Comparison → List Scalar
  | eq value | neq value | gt value | gte value | lt value | lte value => [value]
  | between low high => [low, high]
  | like pattern => [.text pattern]
  | within values | notWithin values => values
  | isNull | isNotNull => []

structure Predicate where
  column : ColumnPath
  comparison : Comparison
  deriving DecidableEq

/-- An inner join of `table` under `tableAlias` on one column of each side. -/
structure Join where
  parentAlias : String
  table : String
  tableAlias : String
  localColumn : String
  foreignColumn : String
  deriving DecidableEq, Repr

inductive QueryStep where
  | join (join : Join)
  | restrict (predicate : Predicate)
  | order (column : ColumnPath) (direction : SortDirection)
  deriving DecidableEq

/-- The alias of the table that the step starts from. -/
def QueryStep.source : QueryStep → String
  | join j => j.parentAlias
  | restrict p => p.column.tableAlias
  | order column _ => column.tableAlias

class QueryTarget (Q : Type) where
  /-- The selection of every column of `table` under `tableAlias`. -/
  selectFrom (table tableAlias : String) : Q
  add (query : Q) (step : QueryStep) : Q

def QueryTarget.addAll {Q : Type} [QueryTarget Q] (query : Q) (steps : List QueryStep) : Q :=
  steps.foldl add query

end QueryFilter
