import QueryFilter.Application
import QueryFilter.FilterMap.Json
import QueryFilter.FilterSettings
import QueryFilter.Sql.Render
import QueryFilter.Validation

/-!
# Applicators

An applicator applies filter maps to queries on one entity of a schema, under a configuration that
can be narrowed and widened step by step. It also remembers for each entity the alias under which
it was last filtered or joined from.
-/

namespace QueryFilter

structure Applicator where
  schema : Schema
  root : String
  entityAlias : String := "entity"
  config : FilterConfig := {}
  aliases : AliasMap := .empty

namespace Applicator

/-! ### Configuration -/

def removeOperator (a : Applicator) (token : String) : Applicator :=
  { a with config := a.config.withoutOperator token }

def removeOperators (a : Applicator) (tokens : List String) : Applicator :=
  { a with config := a.config.withoutOperators tokens }

def enableRelationships (a : Applicator) : Applicator :=
  { a with config := a.config.withRelationships true }

def withFieldAliases (a : Applicator) (aliases : List (String × String)) : Applicator :=
  { a with config := a.config.withAliases aliases }

def withFilterableFields (a : Applicator) (names : List String) : Applicator :=
  { a with config := a.config.withFilterableFields names }

/-- Replaces the filterable fields by some that do not come from a list of names. -/
def withFilterable (a : Applicator) (fields : FilterableFields) : Applicator :=
  { a with config := { a.config with filterable := fields } }

def withEntityAlias (a : Applicator) (name : String) : Except FilterError Applicator :=
  if name = "" then .error (.configuration "Entity alias cannot be empty")
  else .ok { a with entityAlias := name }

def withSettings (a : Applicator) (settings : FilterSettings) : Except FilterError Applicator :=
  let a := { a with config := settings.applyTo a.config }
  match settings.entityAlias with
  | some name => a.withEntityAlias name
  | none => .ok a

/-! ### Application -/

variable {Q : Type} [QueryTarget Q]

def applyTo (a : Applicator) (query : Q) (filters : FilterMap) : Outcome Q :=
  match a.schema.declared a.root with
  | .error error => ⟨query, a.aliases, some error⟩
  | .ok entity => applyMap a.schema a.config filters entity a.entityAlias query a.aliases

/-- A query for the root entity with `filters`, and the applicator afterwards. -/
def apply (a : Applicator) (filters : FilterMap) : Except FilterError Q × Applicator :=
  match a.schema.declared a.root with
  | .error error => (.error error, a)
  | .ok entity =>
    let outcome := a.applyTo (QueryTarget.selectFrom entity.table a.entityAlias : Q) filters
    (outcome.result, { a with aliases := outcome.aliases })

def validate (a : Applicator) (filters : FilterMap) : Except FilterError Report :=
  QueryFilter.validate a.schema a.root a.config filters

/-- The statement that answers a request: only a filter without problems is applied. -/
def answer (a : Applicator) (filter settings : Option String) : Except FilterError Sql.Select := do
  let filters ← match filter with
    | some text => FilterMap.ofJsonText text
    | none => .ok .empty
  let a ← match settings with
    | some text => (FilterSettings.ofJsonText text).bind a.withSettings
    | none => .ok a
  let report ← a.validate filters
  report.intoResult
  (a.apply filters).1

end Applicator

end QueryFilter
