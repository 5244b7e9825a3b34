import QueryFilter.Proofs.Agreement
import QueryFilter.Proofs.Document
import QueryFilter.Proofs.Steps
import QueryFilter.Schema.Concerts

/-!
# Truncated filters

A query only grows, whether or not application succeeds. An application that fails at some entry
leaves what the filters truncated in front of that entry would have made of the query and of the
aliases (`applyTo_eq_truncated`).
-/

namespace QueryFilter

/-! ### Truncation -/

/-- The last map is the first one up to the entry under `key` in the map at `path`. -/
inductive FilterMap.CutBefore : FilterMap → List String → String → FilterEntry → FilterMap → Prop
  | here (key : String) (entry : FilterEntry) (rest : FilterMap) :
    CutBefore (cons key entry rest) [] key entry empty
  | later {rest cut : FilterMap} {path : List String} {key : String} {entry : FilterEntry}
    (name : String) (other : FilterEntry) (found : CutBefore rest path key entry cut) :
    CutBefore (cons name other rest) path key entry (cons name other cut)
  | inside {inner cut : FilterMap} {path : List String} {key : String} {entry : FilterEntry}
    (name : String) (rest : FilterMap) (found : CutBefore inner path key entry cut) :
    CutBefore (nested name inner rest) (name :: path) key entry (nested name cut empty)

/-- An entry of the filters on `root` that fails in its context, and the filters truncated in front
of it. -/
structure FailingEntry (schema : Schema) (config : FilterConfig) (root : Context)
    (filters : FilterMap) where
  path : List String
  key : String
  entry : FilterEntry
  context : Context
  error : FilterError
  before : FilterMap
  truncated : filters.CutBefore path key entry before
  reached : root.reach? schema config path = some context
  fails : context.Fails schema config key entry error

/-! ### A walk is cut where its map is cut -/

theorem walk_of_cutBefore {schema : Schema} {config : FilterConfig} {filters cut : FilterMap}
    {path : List String} {key : String} {entry : FilterEntry}
    (found : filters.CutBefore path key entry cut) {root context : Context}
    (reached : root.reach? schema config path = some context) :
    ∃ tail, walk schema config filters root.entity root.tableAlias =
      walk schema config cut root.entity root.tableAlias ++
        ⟨context.entity.name, .ofEntry schema config context key entry⟩ :: tail := by
  induction found generalizing root with
  | here key entry rest =>
    obtain rfl := Option.some.inj reached
    cases entry with
    | text raw => exact ⟨_, rfl⟩
    | nested inner => exact ⟨_, walk_nested schema config key inner rest root⟩
  | @later rest cut _ _ _ name other _ ih =>
    obtain ⟨tail, met⟩ := ih reached
    refine ⟨tail, ?_⟩
    rw [walk_cons schema config name other rest, met, walk_cons schema config name other cut,
      List.append_assoc]
  | inside name rest _ ih =>
    obtain ⟨target, entered, onward⟩ := Option.bind_eq_some_iff.mp reached
    obtain ⟨tail, met⟩ := ih onward
    rw [walk_nested, walk_nested, entered]
    simp only [met, walk, List.append_nil, List.append_assoc, List.cons_append]
    exact ⟨_, rfl⟩

theorem append_eq_append_cons {α : Type} {xs ys front tail : List α} {x : α}
    (split : xs ++ ys = front ++ x :: tail) :
    (∃ between, front = xs ++ between ∧ ys = between ++ x :: tail) ∨
      ∃ after, xs = front ++ x :: after := by
  rcases List.append_eq_append_iff.mp split with second | ⟨more, first, rest⟩
  · exact .inl second
  · rcases List.cons_eq_append_iff.mp rest with ⟨rfl, second⟩ | ⟨after, rfl, -⟩
    · exact .inl ⟨[], by simpa using first.symm, second⟩
    · exact .inr ⟨after, first⟩

theorem exists_cutBefore_of_walk {schema : Schema} {config : FilterConfig} {filters : FilterMap}
    (root : Context) {front tail : List Visit} {visit : Visit}
    (met : walk schema config filters root.entity root.tableAlias = front ++ visit :: tail) :
    ∃ path key entry cut context, filters.CutBefore path key entry cut ∧
      root.reach? schema config path = some context ∧
      visit = ⟨context.entity.name, .ofEntry schema config context key entry⟩ ∧
      walk schema config cut root.entity root.tableAlias = front := by
  induction filters generalizing root front tail with
  | empty => exact absurd met.symm (by simp [walk])
  | text key raw rest ih =>
    cases front with
    | nil =>
      obtain ⟨rfl, -⟩ := List.cons.inj met
      exact ⟨[], key, .text raw, .empty, root, .here key (.text raw) rest, rfl, rfl, rfl⟩
    | cons first front =>
      obtain ⟨rfl, later⟩ := List.cons.inj met
      obtain ⟨path, k, entry, cut, context, found, reached, same, before⟩ := ih root later
      exact ⟨path, k, entry, .text key raw cut, context, .later key (.text raw) found, reached,
        same, congrArg (List.cons _) before⟩
  | nested key inner rest ihInner ihRest =>
    rw [walk_nested] at met
    cases front with
    | nil =>
      obtain ⟨rfl, -⟩ := List.cons.inj met
      exact ⟨[], key, .nested inner, .empty, root, .here key (.nested inner) rest, rfl, rfl, rfl⟩
    | cons first front =>
      obtain ⟨rfl, split⟩ := List.cons.inj met
      rcases append_eq_append_cons split with ⟨between, rfl, later⟩ | ⟨after, below⟩
      · -- The visit comes after everything under this entry.
        obtain ⟨path, k, entry, cut, context, found, reached, same, before⟩ := ihRest root later
        refine ⟨path, k, entry, .nested key inner cut, context, .later key (.nested inner) found,
          reached, same, ?_⟩
        rw [walk_nested, before]
      · -- The visit is to something under this entry, which therefore leads somewhere.
        cases opened : root.enter? schema config key with
        | none => simp [opened] at below
        | some target =>
          rw [opened] at below
          obtain ⟨path, k, entry, cut, context, found, reached, same, before⟩ :=
            ihInner target below
          refine ⟨key :: path, k, entry, .nested key cut .empty, context, .inside key rest found,
            ?_, same, ?_⟩
          · rw [Context.reach?, opened, Option.bind_some, reached]
          · rw [walk_nested, opened]
            simp only [before, walk, List.append_nil]
            rfl

/-! ### Queries only grow -/

/-- The plan is on the same table as `start` and holds everything in it, in front of all else. -/
structure QueryPlan.Extends (plan start : QueryPlan) : Prop where
  table : plan.table = start.table
  tableAlias : plan.tableAlias = start.tableAlias
  joins : start.joins <+: plan.joins
  predicates : start.predicates <+: plan.predicates
  orderBy : start.orderBy <+: plan.orderBy

theorem QueryPlan.extends_addAll (plan : QueryPlan) (steps : List QueryStep) :
    (QueryTarget.addAll plan steps).Extends plan := by
  rw [addAll_eq]
  exact
    { table := rfl
      tableAlias := rfl
      joins := List.prefix_append ..
      predicates := List.prefix_append ..
      orderBy := List.prefix_append .. }

/-! ### Applications -/

section
variable {Q : Type} [QueryTarget Q]

theorem Outcome.ofVisits_failed {front : List Visit} {visit : Visit} {error : FilterError}
    (sound : front.findSome? Visit.failure? = none) (failed : visit.failure? = some error)
    (tail : List Visit) (query : Q) (aliases : AliasMap) :
    ofVisits (front ++ visit :: tail) query aliases =
      { ofVisits front query aliases with failure := some error } := by
  have stops : ∀ (q : Q) (m : AliasMap),
      ofVisits (visit :: tail) q m = { query := q, aliases := m, failure := some error } := by
    intro q m
    simp [ofVisits, reached, failed, QueryTarget.addAll]
  have done : (ofVisits front query aliases).failure = none := sound
  rw [ofVisits_append, andThen, done]
  exact stops _ _

section
variable {a : Applicator} {root : Entity} {query : Q} {filters : FilterMap}

theorem FailingEntry.applyTo_eq (declared : a.schema.declared a.root = .ok root)
    (failing : FailingEntry a.schema a.config ⟨root, a.entityAlias⟩ filters)
    (succeeds : (a.applyTo query failing.before).failure = none) :
    a.applyTo query filters =
      { a.applyTo query failing.before with failure := some failing.error } := by
  obtain ⟨tail, met⟩ := walk_of_cutBefore failing.truncated failing.reached
  have verdict := Verdict.ofEntry_eq_failed_iff.mpr failing.fails
  rw [applyTo_eq_ofVisits declared] at succeeds
  rw [applyTo_eq_ofVisits declared, applyTo_eq_ofVisits declared, met, verdict]
  exact Outcome.ofVisits_failed succeeds rfl ..

theorem exists_failingEntry (declared : a.schema.declared a.root = .ok root) {error : FilterError}
    (failed : (a.applyTo query filters).failure = some error) :
    ∃ failing : FailingEntry a.schema a.config ⟨root, a.entityAlias⟩ filters,
      failing.error = error ∧ (a.applyTo query failing.before).failure = none := by
  rw [applyTo_eq_ofVisits declared] at failed
  obtain ⟨front, visit, tail, met, first, sound⟩ := List.findSome?_eq_some_iff.mp failed
  obtain ⟨path, key, entry, before, context, truncated, reached, same, walked⟩ :=
    exists_cutBefore_of_walk ⟨root, a.entityAlias⟩ met
  have verdict : Verdict.ofEntry a.schema a.config context key entry = .failed error := by
    have judged := failed_of_failure? first
    rwa [same] at judged
  refine ⟨⟨path, key, entry, context, error, before, truncated, reached,
    Verdict.ofEntry_eq_failed_iff.mp verdict⟩, rfl, ?_⟩
  rw [applyTo_eq_ofVisits declared, walked]
  exact List.findSome?_eq_none_iff.mpr sound

end

theorem extends_applyTo (a : Applicator) (plan : QueryPlan) (filters : FilterMap) :
    (a.applyTo plan filters).query.Extends plan := by
  cases declared : a.schema.declared a.root with
  | error error =>
    simp only [Applicator.applyTo, declared]
    exact plan.extends_addAll []
  | ok root =>
    rw [applyTo_eq_ofVisits declared]
    exact plan.extends_addAll _

end

/-- Application fails exactly if there is a failing entry in front of which it succeeds, and leaves
what the filters truncated there leave. -/
theorem applyTo_eq_truncated (a : Applicator) (plan : QueryPlan) (filters : FilterMap) :
    let outcome := a.applyTo plan filters
    outcome.query.Extends plan ∧
    (a.schema.entity? a.root = none →
      outcome = { query := plan, aliases := a.aliases, failure := some (.unknownEntity a.root) }) ∧
    ∀ root, a.schema.entity? a.root = some root →
      let Failing := FailingEntry a.schema a.config ⟨root, a.entityAlias⟩ filters
      (∀ error, outcome.failure = some error ↔
        ∃ failing : Failing, failing.error = error ∧
          (a.applyTo plan failing.before).failure = none) ∧
      ∀ failing : Failing, (a.applyTo plan failing.before).failure = none →
        outcome = { a.applyTo plan failing.before with failure := some failing.error } ∧
        ∀ (query : QueryPlan) (aliases : AliasMap),
          applyMap a.schema a.config (.cons failing.key failing.entry .empty)
              failing.context.entity failing.context.tableAlias query aliases =
            { query, aliases, failure := some failing.error } := by
  intro outcome
  refine ⟨extends_applyTo a plan filters, fun undeclared => ?_, fun root found => ?_⟩
  · simp only [outcome, Applicator.applyTo, Schema.declared, undeclared]
  · have declared := declared_eq_ok_iff.mpr found
    intro Failing
    refine ⟨fun error => ⟨exists_failingEntry declared, ?_⟩, fun failing succeeds =>
      ⟨failing.applyTo_eq declared succeeds, failing.fails.applyMap_eq⟩⟩
    rintro ⟨failing, rfl, succeeds⟩
    exact congrArg Outcome.failure (failing.applyTo_eq declared succeeds)

theorem applyTo_eq_truncated_concerts :
    let a : Applicator :=
      { schema := .concerts
        root := "performance"
        config := { relationships := true }
        aliases := .ofList [("venue", "place")] }
    let plan : QueryPlan :=
      { table := "performances"
        tableAlias := "entity"
        predicates := [⟨⟨"entity", "id"⟩, .isNotNull⟩] }
    let filters : FilterMap := .text "state" "Utah"
      (.nested "artist"
        (.text "name|like" "Ada" (.nested "performances" (.text "day|gt" "soon" .empty)
          (.text "id" "7" .empty)))
        (.text "day|sort" "asc" .empty))
    let outcome := a.applyTo plan filters
    outcome.failure = some (.invalidValue "day" .date "soon") ∧
      outcome.query.joins.map Join.tableAlias = ["artist", "performances"] ∧
      outcome.query.Extends plan ∧
      ∃ root, a.schema.entity? a.root = some root ∧
        ∃ failing : FailingEntry a.schema a.config ⟨root, a.entityAlias⟩ filters,
          (a.applyTo plan failing.before).failure = none ∧
          outcome = { a.applyTo plan failing.before with
            failure := some (.invalidValue "day" .date "soon") } := by
  intro a plan filters outcome
  let root := (Schema.concerts.entity? "performance").get (by decide +kernel)
  have declared : a.schema.entity? a.root = some root := by decide +kernel
  have failed : outcome.failure = some (.invalidValue "day" .date "soon") := by decide +kernel
  obtain ⟨grown, -, entries⟩ := applyTo_eq_truncated a plan filters
  obtain ⟨somewhere, truncated⟩ := entries root declared
  obtain ⟨failing, same, succeeds⟩ := (somewhere _).mp failed
  exact ⟨failed, by decide +kernel, grown, root, declared, failing, succeeds,
    same ▸ (truncated failing succeeds).1⟩

end QueryFilter
