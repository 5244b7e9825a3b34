import QueryFilter.FilterMap
import QueryFilter.Resolution

/-!
# Application

Applying a filter map takes its entries in order, and the entries nested under one before the next.
An entry adds its step to the query and records the alias of its entity, or is passed over. The
first failure ends the application, and what was added before it stays.
-/

namespace QueryFilter

abbrev AliasMap := Dict String

/-- What applying a filter map leaves; a failure kept the rest from being applied. -/
structure Outcome (Q : Type) where
  query : Q
  aliases : AliasMap
  failure : Option FilterError := none

namespace Outcome

variable {Q : Type}

def result (outcome : Outcome Q) : Except FilterError Q :=
  match outcome.failure with
  | none => .ok outcome.query
  | some e => .error e

theorem query_of_result {outcome : Outcome Q} {query : Q} (h : outcome.result = .ok query) :
    outcome.query = query := by
  unfold result at h
  split at h
  · exact Except.ok.inj h
  · exact nomatch h

/-- Goes on from the query and the aliases, unless something failed. -/
def andThen (outcome : Outcome Q) (next : Q → AliasMap → Outcome Q) : Outcome Q :=
  match outcome.failure with
  | none => next outcome.query outcome.aliases
  | some _ => outcome

end Outcome

def ResolvedFilter.step (filter : ResolvedFilter) (tableAlias : String) : QueryStep :=
  match filter.instruction with
  | .restrict comparison => .restrict ⟨⟨tableAlias, filter.column⟩, comparison⟩
  | .order direction => .order ⟨tableAlias, filter.column⟩ direction

theorem ResolvedFilter.source_step (filter : ResolvedFilter) (tableAlias : String) :
    (filter.step tableAlias).source = tableAlias := by
  unfold step
  split <;> rfl

theorem ResolvedFilter.instruction_of_step {filter : ResolvedFilter} {tableAlias : String}
    {predicate : Predicate} (restricts : filter.step tableAlias = .restrict predicate) :
    filter.instruction = .restrict predicate.comparison := by
  unfold step at restricts
  split at restricts
  · rename_i comparison instruction
    obtain rfl := QueryStep.restrict.inj restricts
    exact instruction
  · exact nomatch restricts

/-- The target takes the name of the association as its alias. -/
def Association.join (association : Association) (tableAlias table : String) : Join where
  parentAlias := tableAlias
  table := table
  tableAlias := association.name
  localColumn := association.localColumn
  foreignColumn := association.foreignColumn

variable {Q : Type} [QueryTarget Q]

def applyFilter (schema : Schema) (config : FilterConfig) (entity : Entity)
    (tableAlias key raw : String) (query : Q) (aliases : AliasMap) : Outcome Q :=
  match resolveFilter schema config entity key raw with
  | .error error => { query, aliases, failure := some error }
  | .ok (.skipped _) => { query, aliases }
  | .ok (.applied filter) =>
    { query := QueryTarget.add query (filter.step tableAlias)
      aliases := aliases.insert entity.name tableAlias }

/-- An entry with a map of its own joins the target of its association, and goes on there. -/
def applyMap (schema : Schema) (config : FilterConfig) :
    FilterMap → (entity : Entity) → (tableAlias : String) → Q → AliasMap → Outcome Q
  | .empty, _, _, query, aliases => { query, aliases }
  | .text key raw rest, entity, tableAlias, query, aliases =>
    (applyFilter schema config entity tableAlias key raw query aliases).andThen
      (applyMap schema config rest entity tableAlias)
  | .nested key inner rest, entity, tableAlias, query, aliases =>
    Outcome.andThen
      (match resolveRelationship config entity key with
      | .skipped _ => { query, aliases }
      | .applied association =>
        match schema.declared association.target with
        | .error error => { query, aliases, failure := some error }
        | .ok target =>
          applyMap schema config inner target association.name
            (QueryTarget.add query (.join (association.join tableAlias target.table)))
            (aliases.insert entity.name tableAlias))
      (applyMap schema config rest entity tableAlias)

end QueryFilter
