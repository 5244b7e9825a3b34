import QueryFilter.Proofs.Steps
import QueryFilter.Proofs.Walk
import QueryFilter.Sql.Render

/-!
# Replay of plans

A translation between two kinds of query that agrees with every step carries whole runs over, and
with them whole applications. Replaying a plan as a statement is such a translation, so it does not
matter whether the steps are recorded first or taken on the statement at once.
-/

namespace QueryFilter

/-- The translation starts where the other side starts and takes every step with it. -/
structure QueryTarget.Translates {Q R : Type} [QueryTarget Q] [QueryTarget R] (f : Q → R) :
    Prop where
  selectFrom (table tableAlias : String) :
    f (QueryTarget.selectFrom table tableAlias) = QueryTarget.selectFrom table tableAlias
  add (query : Q) (step : QueryStep) :
    f (QueryTarget.add query step) = QueryTarget.add (f query) step

def Outcome.map {Q R : Type} (f : Q → R) (outcome : Outcome Q) : Outcome R where
  query := f outcome.query
  aliases := outcome.aliases
  failure := outcome.failure

theorem Outcome.result_map {Q R : Type} (f : Q → R) (outcome : Outcome Q) :
    (outcome.map f).result = outcome.result.map f := by
  unfold result map
  cases outcome.failure with
  | none => rfl
  | some error => rfl

section
variable {Q R : Type} [QueryTarget Q] [QueryTarget R] {f : Q → R}

/-! ### One translation -/

namespace QueryTarget.Translates

theorem map_addAll (translates : Translates f) (query : Q) (steps : List QueryStep) :
    f (QueryTarget.addAll query steps) = QueryTarget.addAll (f query) steps := by
  induction steps generalizing query with
  | nil => rfl
  | cons step rest ih =>
    calc f (QueryTarget.addAll query (step :: rest))
      _ = f (QueryTarget.addAll (QueryTarget.add query step) rest) := rfl
      _ = QueryTarget.addAll (f (QueryTarget.add query step)) rest := ih _
      _ = QueryTarget.addAll (f query) (step :: rest) := by rw [translates.add]; rfl

theorem map_ofVisits (translates : Translates f) (visits : List Visit) (query : Q)
    (aliases : AliasMap) :
    (Outcome.ofVisits visits query aliases).map f = .ofVisits visits (f query) aliases := by
  have steps := translates.map_addAll query ((reached visits).filterMap Visit.step?)
  simp only [Outcome.ofVisits, Outcome.map, steps]

theorem map_applyMap (translates : Translates f) (schema : Schema) (config : FilterConfig)
    (filters : FilterMap) (entity : Entity) (tableAlias : String) (query : Q)
    (aliases : AliasMap) :
    (applyMap schema config filters entity tableAlias query aliases).map f =
      applyMap schema config filters entity tableAlias (f query) aliases := by
  rw [applyMap_eq_ofVisits, applyMap_eq_ofVisits, translates.map_ofVisits]

theorem map_applyTo (translates : Translates f) (a : Applicator) (query : Q) (filters : FilterMap) :
    (a.applyTo query filters).map f = a.applyTo (f query) filters := by
  unfold Applicator.applyTo
  cases a.schema.declared a.root with
  | error error => rfl
  | ok root => exact translates.map_applyMap ..

theorem map_apply (translates : Translates f) (a : Applicator) (filters : FilterMap) :
    (a.apply filters).1.map f = (a.apply (Q := R) filters).1 ∧
      (a.apply (Q := Q) filters).2 = (a.apply (Q := R) filters).2 := by
  unfold Applicator.apply
  cases a.schema.declared a.root with
  | error error => exact ⟨rfl, rfl⟩
  | ok root =>
    have outcomes :=
      translates.map_applyTo a (QueryTarget.selectFrom root.table a.entityAlias) filters
    rw [translates.selectFrom] at outcomes
    dsimp only
    rw [← outcomes]
    exact ⟨(Outcome.result_map ..).symm, rfl⟩

end QueryTarget.Translates

end

/-! ### Statements -/

theorem QueryPlan.toSelect_add (plan : QueryPlan) (step : QueryStep) :
    (plan.add step).toSelect = plan.toSelect.add step := by
  rw [toSelect_eq, toSelect_eq]
  cases step with
  | join join => simp [add, Sql.Select.add]
  | restrict predicate => simp [add, Sql.Select.add]
  | order column direction => rfl

theorem QueryPlan.translates_toSelect : QueryTarget.Translates toSelect where
  selectFrom _ _ := rfl
  add := toSelect_add

/-- Any run of steps, and any application, builds the same text and parameters on a statement as on
a plan that is replayed. -/
theorem replay_builds_as_direct (dialect : Sql.Dialect) :
    (∀ (table tableAlias : String) (steps : List QueryStep),
      let recorded : QueryPlan := QueryTarget.addAll (QueryTarget.selectFrom table tableAlias) steps
      let direct : Sql.Select := QueryTarget.addAll (QueryTarget.selectFrom table tableAlias) steps
      recorded.toSelect.build dialect = direct.build dialect) ∧
    ∀ (a : Applicator) (filters : FilterMap),
      let recorded := a.apply (Q := QueryPlan) filters
      let direct := a.apply (Q := Sql.Select) filters
      recorded.1.map (fun plan => plan.toSelect.build dialect) =
          direct.1.map (fun select => select.build dialect) ∧
        recorded.2.aliases = direct.2.aliases := by
  constructor
  · intro table tableAlias steps
    have same :=
      QueryPlan.translates_toSelect.map_addAll (QueryTarget.selectFrom table tableAlias) steps
    exact congrArg (Sql.Select.build · dialect) same
  · intro a filters
    obtain ⟨results, applicators⟩ := QueryPlan.translates_toSelect.map_apply a filters
    refine ⟨?_, congrArg Applicator.aliases applicators⟩
    rw [← results]
    cases (a.apply (Q := QueryPlan) filters).1 with
    | error error => rfl
    | ok plan => rfl

end QueryFilter
