import QueryFilter.Proofs.Agreement
import QueryFilter.Proofs.Document
import QueryFilter.Proofs.Steps
import QueryFilter.Schema.Concerts

/-!
# Reordered filters

The order of entries decides in which order things are done and reported, and nothing else: filters
whose entries are permuted, at any level, make the same joins, predicates and sort columns and have
the same problems (`reordering_only_rearranges`). Where a run fails depends on the order, whether it
fails does not.
-/

namespace QueryFilter

/-! ### Reordering -/

/-- The entries are permuted, at each level independently of the others. -/
inductive FilterMap.Reordered : FilterMap → FilterMap → Prop
  | empty : Reordered empty empty
  | text (key raw : String) {rest others : FilterMap} (tail : Reordered rest others) :
    Reordered (text key raw rest) (text key raw others)
  | nested (key : String) {inner below rest others : FilterMap} (head : Reordered inner below)
    (tail : Reordered rest others) : Reordered (nested key inner rest) (nested key below others)
  | swap (key : String) (entry : FilterEntry) (name : String) (other : FilterEntry)
    (rest : FilterMap) :
    Reordered (cons key entry (cons name other rest)) (cons name other (cons key entry rest))
  | trans {first second third : FilterMap} (front : Reordered first second)
    (back : Reordered second third) : Reordered first third

namespace FilterMap

theorem Reordered.refl (filters : FilterMap) : filters.Reordered filters := by
  induction filters with
  | empty => exact .empty
  | text key raw rest ih => exact .text key raw ih
  | nested key inner rest ihInner ihRest => exact .nested key ihInner ihRest

theorem Reordered.symm {filters others : FilterMap} (reordered : filters.Reordered others) :
    others.Reordered filters := by
  induction reordered with
  | empty => exact .empty
  | text key raw _ ih => exact .text key raw ih
  | nested key _ _ ihHead ihTail => exact .nested key ihHead ihTail
  | swap key entry name other rest => exact .swap name other key entry rest
  | trans _ _ ihFront ihBack => exact ihBack.trans ihFront

theorem Reordered.cons (key : String) (entry : FilterEntry) {rest others : FilterMap}
    (tail : rest.Reordered others) : (cons key entry rest).Reordered (cons key entry others) := by
  cases entry with
  | text raw => exact .text key raw tail
  | nested inner => exact .nested key (.refl inner) tail

theorem ofEntries_entries (filters : FilterMap) : ofEntries filters.entries = filters := by
  induction filters using cons_induction with
  | empty => rfl
  | cons key entry rest ih => rw [entries_cons, ofEntries, ih]

theorem Reordered.of_perm {filters others : FilterMap}
    (permuted : filters.entries.Perm others.entries) : filters.Reordered others := by
  have lists : ∀ {xs ys : List (String × FilterEntry)}, xs.Perm ys →
      (ofEntries xs).Reordered (ofEntries ys) := by
    intro xs ys perm
    induction perm with
    | nil => exact .empty
    | cons e _ ih => exact .cons e.1 e.2 ih
    | swap e f rest => exact .swap f.1 f.2 e.1 e.2 (ofEntries rest)
    | trans _ _ ihFront ihBack => exact ihFront.trans ihBack
  have reordered := lists permuted
  rwa [ofEntries_entries, ofEntries_entries] at reordered

/-- A reordering permutes the visits of a walk, those to nested entries included. -/
theorem Reordered.walk_perm {filters others : FilterMap} (reordered : filters.Reordered others)
    (schema : Schema) (config : FilterConfig) (context : Context) :
    (walk schema config filters context.entity context.tableAlias).Perm
      (walk schema config others context.entity context.tableAlias) := by
  induction reordered generalizing context with
  | empty => exact .nil
  | text key raw _ ih => exact (ih context).cons _
  | nested key _ _ ihHead ihTail =>
    rw [walk_nested, walk_nested]
    refine (List.Perm.append ?_ (ihTail context)).cons _
    cases context.enter? schema config key with
    | none => exact .nil
    | some target => exact ihHead target
  | swap key entry name other rest =>
    rw [walk_cons schema config key entry (.cons name other rest),
      walk_cons schema config name other rest,
      walk_cons schema config name other (.cons key entry rest),
      walk_cons schema config key entry rest]
    exact List.perm_append_comm_assoc ..
  | trans _ _ ihFront ihBack => exact (ihFront context).trans (ihBack context)

end FilterMap

/-! ### What visits come to in another order -/

theorem findSome?_eq_none_of_perm {α β : Type} {f : α → Option β} {xs ys : List α}
    (perm : xs.Perm ys) (nothing : xs.findSome? f = none) : ys.findSome? f = none := by
  rw [List.findSome?_eq_none_iff] at nothing ⊢
  intro x member
  exact nothing x (perm.mem_iff.mpr member)

/-- The same table, joins, predicates and sort columns, each kind of step in some order. -/
structure QueryPlan.Rearranged (plan other : QueryPlan) : Prop where
  table : plan.table = other.table
  tableAlias : plan.tableAlias = other.tableAlias
  joins : plan.joins.Perm other.joins
  predicates : plan.predicates.Perm other.predicates
  orderBy : plan.orderBy.Perm other.orderBy

theorem QueryPlan.rearranged_addAll (plan : QueryPlan) {steps others : List QueryStep}
    (perm : steps.Perm others) :
    (QueryTarget.addAll plan steps).Rearranged (QueryTarget.addAll plan others) := by
  rw [addAll_eq, addAll_eq]
  exact
    { table := rfl
      tableAlias := rfl
      joins := (perm.filterMap _).append_left _
      predicates := (perm.filterMap _).append_left _
      orderBy := (perm.filterMap _).append_left _ }

/-- The same problems, each group in some order. -/
structure Report.Rearranged (report other : Report) : Prop where
  unavailableFields : report.unavailableFields.Perm other.unavailableFields
  unavailableJoins : report.unavailableJoins.Perm other.unavailableJoins
  unavailableOperators : report.unavailableOperators.Perm other.unavailableOperators
  invalidValues : report.invalidValues.Perm other.invalidValues
  invalidTypedValues : report.invalidTypedValues.Perm other.invalidTypedValues

theorem Report.rearranged_addAll (report : Report) {problems others : List Problem}
    (perm : problems.Perm others) :
    (report.addAll problems).Rearranged (report.addAll others) := by
  rw [addAll_eq, addAll_eq]
  exact
    { unavailableFields := (perm.filterMap _).append_left _
      unavailableJoins := (perm.filterMap _).append_left _
      unavailableOperators := (perm.filterMap _).append_left _
      invalidValues := (perm.filterMap _).append_left _
      invalidTypedValues := (perm.filterMap _).append_left _ }

theorem Report.Rearranged.isValid_eq {report other : Report}
    (rearranged : report.Rearranged other) : report.isValid = other.isValid := by
  simp only [isValid, rearranged.unavailableFields.isEmpty_eq,
    rearranged.unavailableJoins.isEmpty_eq, rearranged.unavailableOperators.isEmpty_eq,
    rearranged.invalidValues.isEmpty_eq, rearranged.invalidTypedValues.isEmpty_eq]

theorem Outcome.exists_rearranged_ofVisits {visits others : List Visit} {start plan : QueryPlan}
    {aliases : AliasMap} (perm : visits.Perm others)
    (applied : (ofVisits visits start aliases).result = .ok plan) :
    ∃ other, (ofVisits others start aliases).result = .ok other ∧ plan.Rearranged other := by
  obtain ⟨sound, rfl⟩ := result_ofVisits_eq_query_iff.mp applied
  exact ⟨_, result_ofVisits_eq_query_iff.mpr ⟨findSome?_eq_none_of_perm perm sound, rfl⟩,
    start.rearranged_addAll (perm.filterMap _)⟩

theorem Report.exists_rearranged_ofVisits {visits others : List Visit} {start report : Report}
    (perm : visits.Perm others) (validated : ofVisits visits start = .ok report) :
    ∃ other, ofVisits others start = .ok other ∧ report.Rearranged other := by
  obtain ⟨noFault, rfl⟩ := ofVisits_eq_ok_iff.mp validated
  exact ⟨_, ofVisits_eq_ok_iff.mpr ⟨findSome?_eq_none_of_perm perm noFault, rfl⟩,
    start.rearranged_addAll (perm.filterMap _)⟩

/-! ### Whole runs -/

section
variable {a : Applicator} {filters others : FilterMap}

theorem exists_rearranged_plan (reordered : filters.Reordered others) {plan : QueryPlan}
    (applied : (a.apply filters).1 = .ok plan) :
    ∃ other : QueryPlan, (a.apply others).1 = .ok other ∧ plan.Rearranged other := by
  cases declared : a.schema.declared a.root with
  | error error => simp [Applicator.apply, declared] at applied
  | ok root =>
    rw [result_apply filters declared] at applied
    rw [result_apply others declared]
    exact Outcome.exists_rearranged_ofVisits
      (reordered.walk_perm a.schema a.config ⟨root, a.entityAlias⟩) applied

theorem exists_rearranged_report (reordered : filters.Reordered others) {report : Report}
    (validated : validate a.schema a.root a.config filters = .ok report) :
    ∃ other, validate a.schema a.root a.config others = .ok other ∧ report.Rearranged other := by
  cases declared : a.schema.declared a.root with
  | error error => simp [validate, declared, Except.bind] at validated
  | ok root =>
    rw [validate_eq_ofVisits a.config filters a.entityAlias declared] at validated
    rw [validate_eq_ofVisits a.config others a.entityAlias declared]
    exact Report.exists_rearranged_ofVisits
      (reordered.walk_perm a.schema a.config ⟨root, a.entityAlias⟩) validated

end

/-- Reordered filters succeed or fail together, and where they succeed they do the same things and
have the same problems, only in another order. -/
theorem reordering_only_rearranges (a : Applicator) {filters others : FilterMap}
    (reordered : filters.Reordered others) :
    ((∃ plan : QueryPlan, (a.apply filters).1 = .ok plan) ↔
      ∃ other : QueryPlan, (a.apply others).1 = .ok other) ∧
    (∀ plan other : QueryPlan, (a.apply filters).1 = .ok plan → (a.apply others).1 = .ok other →
      plan.Rearranged other) ∧
    ((∃ report, validate a.schema a.root a.config filters = .ok report) ↔
      ∃ other, validate a.schema a.root a.config others = .ok other) ∧
    ∀ report other, validate a.schema a.root a.config filters = .ok report →
      validate a.schema a.root a.config others = .ok other →
        report.Rearranged other ∧ report.isValid = other.isValid := by
  refine ⟨⟨?_, ?_⟩, fun plan other applied succeeded => ?_, ⟨?_, ?_⟩,
    fun report other validated succeeded => ?_⟩
  · rintro ⟨plan, applied⟩
    obtain ⟨other, succeeded, -⟩ := exists_rearranged_plan reordered applied
    exact ⟨other, succeeded⟩
  · rintro ⟨other, succeeded⟩
    obtain ⟨plan, applied, -⟩ := exists_rearranged_plan reordered.symm succeeded
    exact ⟨plan, applied⟩
  · obtain ⟨found, same, rearranged⟩ := exists_rearranged_plan reordered applied
    obtain rfl := Except.ok.inj (succeeded.symm.trans same)
    exact rearranged
  · rintro ⟨report, validated⟩
    obtain ⟨other, succeeded, -⟩ := exists_rearranged_report reordered validated
    exact ⟨other, succeeded⟩
  · rintro ⟨other, succeeded⟩
    obtain ⟨report, validated, -⟩ := exists_rearranged_report reordered.symm succeeded
    exact ⟨report, validated⟩
  · obtain ⟨found, same, rearranged⟩ := exists_rearranged_report reordered validated
    obtain rfl := Except.ok.inj (succeeded.symm.trans same)
    exact ⟨rearranged, rearranged.isValid_eq⟩

theorem reordering_only_rearranges_concerts :
    let a : Applicator :=
      { schema := .concerts, root := "performance", config := { relationships := true } }
    let filters : FilterMap := .text "state" "Utah"
      (.nested "artist" (.text "name" "Ada" (.text "id|in" "7" .empty))
        (.text "day|sort" "asc" .empty))
    let others : FilterMap := .nested "artist" (.text "id|in" "7" (.text "name" "Ada" .empty))
      (.text "day|sort" "asc" (.text "state" "Utah" .empty))
    let plan : QueryPlan :=
      { table := "performances"
        tableAlias := "entity"
        joins := [⟨"entity", "artists", "artist", "artist_id", "id"⟩]
        predicates := [⟨⟨"entity", "state"⟩, .eq (.text "Utah")⟩,
          ⟨⟨"artist", "name"⟩, .eq (.text "Ada")⟩, ⟨⟨"artist", "id"⟩, .within [.int 7]⟩]
        orderBy := [(⟨"entity", "day"⟩, .asc)] }
    filters.Reordered others ∧ (a.apply filters).1 = .ok plan ∧
      (∃ other : QueryPlan, (a.apply others).1 = .ok other ∧ other ≠ plan ∧
        plan.Rearranged other) ∧
      ∃ report other, validate a.schema a.root a.config filters = .ok report ∧
        validate a.schema a.root a.config others = .ok other ∧ report.Rearranged other ∧
        report.isValid = other.isValid := by
  intro a filters others plan
  let middle : FilterMap := .nested "artist" (.text "name" "Ada" (.text "id|in" "7" .empty))
    (.text "day|sort" "asc" (.text "state" "Utah" .empty))
  have outside : filters.Reordered middle := .of_perm (by decide +kernel)
  have inside : middle.Reordered others := .nested "artist" (.of_perm (by decide +kernel)) (.refl _)
  have reordered : filters.Reordered others := outside.trans inside
  have applied : (a.apply filters).1 = .ok plan := by decide +kernel
  obtain ⟨plans, same, reports, problems⟩ := reordering_only_rearranges a reordered
  obtain ⟨other, succeeded⟩ := plans.mp ⟨plan, applied⟩
  obtain ⟨report, validated⟩ : ∃ report, validate a.schema a.root a.config filters = .ok report :=
    ⟨{ invalidValues := [⟨"in", "7"⟩] }, by decide +kernel⟩
  obtain ⟨found, confirmed⟩ := reports.mp ⟨report, validated⟩
  refine ⟨reordered, applied,
    ⟨other, succeeded, fun equal => ?_, same plan other applied succeeded⟩,
    report, found, validated, confirmed, problems report found validated confirmed⟩
  subst equal
  exact absurd succeeded (by decide +kernel)

end QueryFilter
