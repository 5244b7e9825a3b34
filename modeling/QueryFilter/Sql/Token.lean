import QueryFilter.Sql.Select

/-!
# Tokens of a statement

A statement is written as a list of tokens: fixed text, names and parameters. The dialect decides
how a name is quoted and how a parameter is marked, and nothing else.
-/

namespace QueryFilter.Sql

inductive Token where
  | fixed (text : String)
  | name (name : String)
  | parameter (value : Parameter)
  deriving DecidableEq

def Relation.text : Relation → String
  | eq => " = "
  | ne => " <> "
  | gt => " > "
  | ge => " >= "
  | lt => " < "
  | le => " <= "
  | like => " LIKE "

def columnTokens (path : ColumnPath) : List Token :=
  [.name path.tableAlias, .fixed ".", .name path.column]

/-- The token lists one after another with `separator` between neighbours. -/
def separated (separator : String) (parts : List (List Token)) : List Token :=
  [.fixed separator].intercalate parts

def listTokens (values : List Parameter) : List Token :=
  .fixed "(" :: separated ", " (values.map fun v => [.parameter v]) ++ [.fixed ")"]

def Condition.tokens : Condition → List Token
  | compare column relation value =>
    columnTokens column ++ [.fixed relation.text, .parameter value]
  | between column low high =>
    columnTokens column ++
      [.fixed " BETWEEN ", .parameter low, .fixed " AND ", .parameter high]
  | member column values => columnTokens column ++ .fixed " IN " :: listTokens values
  | notMember column values => columnTokens column ++ .fixed " NOT IN " :: listTokens values
  | isNull column => columnTokens column ++ [.fixed " IS NULL"]
  | isNotNull column => columnTokens column ++ [.fixed " IS NOT NULL"]
  | constant left right => [.parameter left, .fixed " = ", .parameter right]

/-- A condition as one of several. A range has an `AND` of its own and is parenthesised. -/
def Condition.conjunctTokens (condition : Condition) : List Token :=
  match condition with
  | between .. => .fixed "(" :: condition.tokens ++ [.fixed ")"]
  | _ => condition.tokens

def conditionTokens : List Condition → List Token
  | [] => []
  | [condition] => .fixed " WHERE " :: condition.tokens
  | conditions => .fixed " WHERE " :: separated " AND " (conditions.map Condition.conjunctTokens)

def JoinClause.tokens (join : JoinClause) : List Token :=
  [.fixed " INNER JOIN ", .name join.table, .fixed " AS ", .name join.tableAlias, .fixed " ON "] ++
    columnTokens join.left ++ .fixed " = " :: columnTokens join.right

def directionText : SortDirection → String
  | .asc => " ASC"
  | .desc => " DESC"

def orderTokens : List (ColumnPath × SortDirection) → List Token
  | [] => []
  | orders => .fixed " ORDER BY " :: separated ", " (orders.map fun (column, direction) =>
      columnTokens column ++ [.fixed (directionText direction)])

def Select.tokens (select : Select) : List Token :=
  [.fixed "SELECT ", .name select.tableAlias, .fixed ".* FROM ", .name select.table, .fixed " AS ",
    .name select.tableAlias] ++
    select.joins.flatMap JoinClause.tokens ++ conditionTokens select.conditions ++
    orderTokens select.orderBy

end QueryFilter.Sql
