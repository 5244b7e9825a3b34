import QueryFilter.Query.Plan

/-!
# Select statements

The part of SQL that filters need: all columns of one table, inner joins, a conjunction of
conditions and a list of sort columns. Values stand in a statement as parameters.
-/

namespace QueryFilter.Sql

/-- A value that is handed over beside the text of a statement. -/
inductive Parameter where
  | bigInt (value : Int)
  | bigUnsigned (value : Nat)
  | double (value : Binary64)
  | bool (value : Bool)
  | string (value : String)
  | date (value : Calendar.Date)
  | dateTime (value : Calendar.DateTime)
  | uuid (value : Uuid)
  /-- A whole number that comes from the statement itself and not from a filter. -/
  | int (value : Int)
  deriving DecidableEq

def Parameter.ofScalar : Scalar → Parameter
  | .int value => bigInt value
  | .bigUnsigned value => bigUnsigned value
  | .float value => double value
  | .bool value => bool value
  | .text value => string value
  | .date value => date value
  | .dateTime value => dateTime value
  | .uuid value => uuid value

inductive Relation where
  | eq
  | ne
  | gt
  | ge
  | lt
  | le
  | like
  deriving DecidableEq, Repr

inductive Condition where
  | compare (column : ColumnPath) (relation : Relation) (value : Parameter)
  | between (column : ColumnPath) (low high : Parameter)
  | member (column : ColumnPath) (values : List Parameter)
  | notMember (column : ColumnPath) (values : List Parameter)
  | isNull (column : ColumnPath)
  | isNotNull (column : ColumnPath)
  /-- Equality of two parameters, which no row changes. -/
  | constant (left right : Parameter)
  deriving DecidableEq

/-- Membership in a list. In an empty list nothing is, which is said by two unequal constants. -/
def Condition.within (column : ColumnPath) (values : List Scalar) : Condition :=
  if values = [] then constant (.int 1) (.int 2)
  else member column (values.map .ofScalar)

/-- Absence from a list. From an empty list everything is absent. -/
def Condition.notWithin (column : ColumnPath) (values : List Scalar) : Condition :=
  if values = [] then constant (.int 1) (.int 1)
  else notMember column (values.map .ofScalar)

def Condition.ofPredicate (predicate : Predicate) : Condition :=
  let column := predicate.column
  match predicate.comparison with
  | .eq value => compare column .eq (.ofScalar value)
  | .neq value => compare column .ne (.ofScalar value)
  | .gt value => compare column .gt (.ofScalar value)
  | .gte value => compare column .ge (.ofScalar value)
  | .lt value => compare column .lt (.ofScalar value)
  | .lte value => compare column .le (.ofScalar value)
  | .between low high => between column (.ofScalar low) (.ofScalar high)
  | .like pattern => compare column .like (.string pattern)
  | .within values => within column values
  | .notWithin values => notWithin column values
  | .isNull => isNull column
  | .isNotNull => isNotNull column

/-- A joined table and the two columns that have to be equal. -/
structure JoinClause where
  table : String
  tableAlias : String
  left : ColumnPath
  right : ColumnPath
  deriving DecidableEq, Repr

def JoinClause.ofJoin (join : Join) : JoinClause where
  table := join.table
  tableAlias := join.tableAlias
  left := ⟨join.parentAlias, join.localColumn⟩
  right := ⟨join.tableAlias, join.foreignColumn⟩

structure Select where
  table : String
  tableAlias : String
  joins : List JoinClause := []
  conditions : List Condition := []
  orderBy : List (ColumnPath × SortDirection) := []
  deriving DecidableEq

namespace Select

def add (select : Select) : QueryStep → Select
  | .join join => { select with joins := select.joins ++ [.ofJoin join] }
  | .restrict predicate =>
    { select with conditions := select.conditions ++ [.ofPredicate predicate] }
  | .order column direction =>
    { select with orderBy := select.orderBy ++ [(column, direction)] }

instance : QueryTarget Select where
  selectFrom table tableAlias := { table, tableAlias }
  add := add

end Select

end QueryFilter.Sql

namespace QueryFilter.QueryPlan

def toSelect (plan : QueryPlan) : Sql.Select := plan.replay Sql.Select

end QueryFilter.QueryPlan
