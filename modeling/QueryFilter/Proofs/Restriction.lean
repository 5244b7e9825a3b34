import QueryFilter.Proofs.Agreement
import QueryFilter.Proofs.Steps
import QueryFilter.Schema.Concerts

/-!
# Restricted configurations

What a configuration forbids is as good as not there. Application under a configuration is
application of what the configuration leaves of the filters under a wider one
(`applyMap_restrict`), so a tighter configuration never fails where a looser one succeeds and only
takes steps away.
-/

namespace QueryFilter

/-! ### What a configuration leaves -/

namespace FilterConfig

/-- Everything is allowed, and only the aliases are kept. -/
def unrestricted (config : FilterConfig) : FilterConfig :=
  { operators := .all, aliases := config.aliases, filterable := .all, relationships := true }

/-- Whether the field that the key names may be filtered and the operator that it names, or implies,
is enabled. -/
def permits (config : FilterConfig) (key : String) : Bool :=
  let decoded := FilterKey.decode config.aliases .all key
  config.filterable.allows decoded.field &&
    decoded.operator.operator?.any config.operators.isEnabled

/-- The first configuration allows nothing that the second does not allow, and the aliases are the
same. -/
structure Tighter (tight loose : FilterConfig) : Prop where
  operators (op : Operator) :
    tight.operators.isEnabled op = true → loose.operators.isEnabled op = true
  filterable (field : String) :
    tight.filterable.allows field = true → loose.filterable.allows field = true
  relationships : tight.relationships = true → loose.relationships = true
  aliases : tight.aliases = loose.aliases

theorem tighter_unrestricted (config : FilterConfig) : config.Tighter config.unrestricted where
  operators op _ := OperatorSet.isEnabled_all op
  filterable _ _ := rfl
  relationships _ := rfl
  aliases := rfl

end FilterConfig

/-- The filters without the entries that the configuration forbids, at every level. -/
def FilterMap.restrict (config : FilterConfig) : FilterMap → FilterMap
  | empty => empty
  | text key raw rest =>
    if config.permits key then text key raw (rest.restrict config) else rest.restrict config
  | nested key inner rest =>
    if config.relationships then nested key (inner.restrict config) (rest.restrict config)
    else rest.restrict config

/-! ### Keys -/

theorem KeyOperator.operator?_ofToken (operators : OperatorSet) (token : String) :
    (ofToken operators token).operator? =
      (ofToken .all token).operator?.filter operators.isEnabled := by
  unfold ofToken OperatorSet.lookup?
  cases Operator.ofToken? token with
  | none => rfl
  | some op =>
    by_cases enabled : operators.isEnabled op = true
    · simp [Option.filter, operator?, enabled]
    · simp [Option.filter, operator?, enabled]

theorem KeyOperator.operator?_implicit (operators : OperatorSet) :
    (implicit operators).operator? = (implicit .all).operator?.filter operators.isEnabled := by
  unfold implicit
  by_cases enabled : operators.isEnabled .eq = true
  · simp [Option.filter, operator?, enabled]
  · simp [Option.filter, operator?, enabled]

theorem FilterKey.operator?_decode (aliases : Dict String) (operators : OperatorSet)
    (key : String) :
    (decode aliases operators key).operator.operator? =
      (decode aliases .all key).operator.operator?.filter operators.isEnabled := by
  unfold decode
  dsimp only
  split
  · exact KeyOperator.operator?_ofToken ..
  · exact KeyOperator.operator?_implicit _

theorem KeyOperator.eq_enabled_of_operator? {operator : KeyOperator} {op : Operator}
    (found : operator.operator? = some op) : operator = .enabled op := by
  cases operator with
  | enabled other => exact congrArg enabled (Option.some.inj found)
  | implicitDisabled => exact nomatch found
  | unavailable token => exact nomatch found

namespace FilterConfig

theorem permits_iff {config : FilterConfig} {key : String} :
    config.permits key = true ↔ ∃ field op,
      FilterKey.decode config.aliases config.operators key = ⟨field, .enabled op⟩ ∧
        config.filterable.allows field = true ∧ config.operators.isEnabled op = true := by
  have known := FilterKey.operator?_decode config.aliases config.operators key
  unfold permits
  rw [Bool.and_eq_true, Option.any_eq_true]
  constructor
  · rintro ⟨allowed, op, named, enabled⟩
    rw [named, Option.filter_some, if_pos enabled] at known
    have operator := KeyOperator.eq_enabled_of_operator? known
    exact ⟨_, op, congrArg (FilterKey.mk _) operator, allowed, enabled⟩
  · rintro ⟨field, op, decoded, allowed, enabled⟩
    rw [decoded] at known
    obtain ⟨named, -⟩ := Option.filter_eq_some_iff.mp known.symm
    have same : (FilterKey.decode config.aliases .all key).field = field :=
      congrArg FilterKey.field decoded
    exact ⟨same ▸ allowed, op, named, enabled⟩

theorem Tighter.decode_eq {tight loose : FilterConfig} (tighter : tight.Tighter loose)
    {key : String} (permitted : tight.permits key = true) :
    FilterKey.decode tight.aliases tight.operators key =
      FilterKey.decode loose.aliases loose.operators key := by
  obtain ⟨field, op, decoded, -, enabled⟩ := permits_iff.mp permitted
  have narrow := FilterKey.operator?_decode tight.aliases tight.operators key
  rw [decoded] at narrow
  obtain ⟨named, -⟩ := Option.filter_eq_some_iff.mp narrow.symm
  have wide := FilterKey.operator?_decode tight.aliases loose.operators key
  rw [named, Option.filter_some, if_pos (tighter.operators op enabled)] at wide
  have operator := KeyOperator.eq_enabled_of_operator? wide
  rw [decoded, ← tighter.aliases]
  exact (congrArg₂ FilterKey.mk (congrArg FilterKey.field decoded) operator).symm

end FilterConfig

/-! ### Entries -/

section
variable {schema : Schema} {tight loose config : FilterConfig} {entity : Entity} {key raw : String}

theorem resolveFilter_of_permits (tighter : tight.Tighter loose)
    (permitted : tight.permits key = true) :
    resolveFilter schema tight entity key raw = resolveFilter schema loose entity key raw := by
  obtain ⟨field, op, decoded, allowed, -⟩ := FilterConfig.permits_iff.mp permitted
  have wide := (tighter.decode_eq permitted).symm.trans decoded
  have both := tighter.filterable field allowed
  unfold resolveFilter
  rw [decoded, wide]
  simp only [allowed, both]

theorem skipped_of_operator?_eq_none {key : FilterKey} {metadata : FieldMetadata}
    (unnamed : key.operator.operator? = none) :
    ∃ reason, resolveOperator schema key metadata raw = .ok (.skipped reason) := by
  unfold resolveOperator
  cases operator : key.operator with
  | enabled op => simp [operator, KeyOperator.operator?] at unnamed
  | implicitDisabled => exact ⟨_, rfl⟩
  | unavailable token => exact ⟨_, rfl⟩

theorem skipped_of_not_permits (schema : Schema) (entity : Entity) (raw : String)
    (forbidden : ¬ config.permits key = true) :
    ∃ reason, resolveFilter schema config entity key raw = .ok (.skipped reason) := by
  unfold resolveFilter
  dsimp only
  by_cases allowed : config.filterable.allows
      (FilterKey.decode config.aliases config.operators key).field = true
  · -- The field is no reason to skip the entry, so the key names no enabled operator.
    have unnamed :
        (FilterKey.decode config.aliases config.operators key).operator.operator? = none := by
      rw [FilterKey.operator?_decode, Option.filter_eq_none_iff]
      intro op named enabled
      refine forbidden ?_
      unfold FilterConfig.permits
      rw [Bool.and_eq_true, Option.any_eq_true]
      exact ⟨allowed, op, named, enabled⟩
    rw [if_neg fun denied => denied allowed]
    split
    · exact ⟨_, rfl⟩
    · split
      · exact skipped_of_operator?_eq_none unnamed
      · exact ⟨_, rfl⟩
    · exact skipped_of_operator?_eq_none unnamed
  · exact ⟨_, if_pos allowed⟩

theorem resolveRelationship_of_enabled (tighter : tight.Tighter loose)
    (enabled : tight.relationships = true) :
    resolveRelationship tight entity key = resolveRelationship loose entity key := by
  unfold resolveRelationship
  rw [if_pos enabled, if_pos (tighter.relationships enabled)]

end

/-! ### Runs -/

section
variable {Q : Type} [QueryTarget Q] {schema : Schema} {tight loose : FilterConfig}

/-- Application under the tighter configuration is application of what it leaves under the looser
one, with the same failures and aliases. -/
theorem applyMap_restrict (tighter : tight.Tighter loose) (filters : FilterMap) (entity : Entity)
    (tableAlias : String) (query : Q) (aliases : AliasMap) :
    applyMap schema tight filters entity tableAlias query aliases =
      applyMap schema loose (filters.restrict tight) entity tableAlias query aliases := by
  induction filters generalizing entity tableAlias query aliases with
  | empty => rfl
  | text key raw rest ih =>
    have tail : applyMap (Q := Q) schema tight rest entity tableAlias =
        applyMap schema loose (rest.restrict tight) entity tableAlias :=
      funext fun q => funext (ih entity tableAlias q)
    rw [FilterMap.restrict, applyMap, tail]
    by_cases permitted : tight.permits key = true
    · rw [if_pos permitted, applyMap]
      unfold applyFilter
      rw [resolveFilter_of_permits tighter permitted]
    · -- The entry is passed over on the left, and missing on the right.
      rw [if_neg permitted]
      obtain ⟨reason, skipped⟩ := skipped_of_not_permits schema entity raw permitted
      unfold applyFilter
      rw [skipped]
      rfl
  | nested key inner rest ihInner ihRest =>
    have tail : applyMap (Q := Q) schema tight rest entity tableAlias =
        applyMap schema loose (rest.restrict tight) entity tableAlias :=
      funext fun q => funext (ihRest entity tableAlias q)
    rw [FilterMap.restrict, applyMap, tail]
    by_cases enabled : tight.relationships = true
    · rw [if_pos enabled, applyMap, resolveRelationship_of_enabled tighter enabled]
      simp only [ihInner]
    · rw [if_neg enabled]
      unfold resolveRelationship
      rw [if_neg enabled]
      rfl

theorem walk_restrict_sublist (schema : Schema) (config other : FilterConfig) (filters : FilterMap)
    (entity : Entity) (tableAlias : String) :
    (walk schema config (filters.restrict other) entity tableAlias).Sublist
      (walk schema config filters entity tableAlias) := by
  induction filters generalizing entity tableAlias with
  | empty => exact List.Sublist.refl _
  | text key raw rest ih =>
    rw [FilterMap.restrict, walk]
    split
    · exact (ih entity tableAlias).cons_cons _
    · exact (ih entity tableAlias).cons _
  | nested key inner rest ihInner ihRest =>
    rw [FilterMap.restrict, walk]
    split
    · rw [walk]
      refine List.Sublist.append ?_ (ihRest entity tableAlias)
      split
      · exact List.Sublist.refl _
      · split
        · exact List.Sublist.refl _
        · exact (ihInner _ _).cons_cons _
    · exact (ihRest entity tableAlias).trans (List.sublist_append_right _ _)

theorem apply_restrict (tighter : tight.Tighter loose) (a : Applicator) (filters : FilterMap) :
    ({ a with config := tight }.apply (Q := Q) filters).1 =
        ({ a with config := loose }.apply (filters.restrict tight)).1 ∧
      ({ a with config := tight }.apply (Q := Q) filters).2.aliases =
        ({ a with config := loose }.apply (Q := Q) (filters.restrict tight)).2.aliases := by
  cases declared : a.schema.declared a.root with
  | error error =>
    simp only [Applicator.apply, declared, and_self]
  | ok root =>
    simp only [Applicator.apply, Applicator.applyTo, declared, applyMap_restrict tighter, and_self]

end

/-- A day that cannot be read does no harm where days may not be filtered. -/
example :
    ({ schema := .concerts
       root := "performance"
       config := { filterable := .ofNames ["state"] } : Applicator }.apply
      (.text "day|gt" "soon" .empty)).1 =
      .ok (QueryTarget.selectFrom "performances" "entity" : QueryPlan) := by
  decide +kernel

/-! ### Plans -/

/-- The first plan is on the same table and does a part of what the second one does, in the same
order. -/
structure QueryPlan.Within (narrow wide : QueryPlan) : Prop where
  table : narrow.table = wide.table
  tableAlias : narrow.tableAlias = wide.tableAlias
  joins : narrow.joins.Sublist wide.joins
  predicates : narrow.predicates.Sublist wide.predicates
  orderBy : narrow.orderBy.Sublist wide.orderBy

theorem QueryPlan.within_addAll (plan : QueryPlan) {part steps : List QueryStep}
    (sub : part.Sublist steps) :
    (QueryTarget.addAll plan part).Within (QueryTarget.addAll plan steps) := by
  rw [addAll_eq, addAll_eq]
  exact
    { table := rfl
      tableAlias := rfl
      joins := (sub.filterMap _).append_left _
      predicates := (sub.filterMap _).append_left _
      orderBy := (sub.filterMap _).append_left _ }

theorem exists_within_of_sublist {part visits : List Visit} (sub : part.Sublist visits)
    {start plan : QueryPlan} {aliases : AliasMap}
    (applied : (Outcome.ofVisits visits start aliases).result = .ok plan) :
    ∃ narrow, (Outcome.ofVisits part start aliases).result = .ok narrow ∧ narrow.Within plan := by
  obtain ⟨sound, rfl⟩ := result_ofVisits_eq_query_iff.mp applied
  have partSound : part.findSome? Visit.failure? = none :=
    List.findSome?_eq_none_iff.mpr fun visit member =>
      List.findSome?_eq_none_iff.mp sound visit (sub.subset member)
  exact ⟨_, result_ofVisits_eq_query_iff.mpr ⟨partSound, rfl⟩,
    start.within_addAll (sub.filterMap _)⟩

theorem exists_within_of_tighter {a : Applicator} {tight : FilterConfig}
    (tighter : tight.Tighter a.config) {filters : FilterMap} {plan : QueryPlan}
    (applied : (a.apply filters).1 = .ok plan) :
    ∃ narrow : QueryPlan,
      ({ a with config := tight }.apply filters).1 = .ok narrow ∧ narrow.Within plan := by
  rw [(apply_restrict tighter a filters).1]
  cases declared : a.schema.declared a.root with
  | error error => simp [Applicator.apply, declared] at applied
  | ok root =>
    rw [result_apply filters declared] at applied
    rw [result_apply (a := { a with config := a.config }) _ declared]
    exact exists_within_of_sublist (walk_restrict_sublist ..) applied

/-- Filters do what the entries that a configuration permits do where everything is allowed, so that
a tighter one succeeds wherever a looser one does. -/
theorem apply_eq_apply_permitted {Q : Type} [QueryTarget Q] (a : Applicator) (filters : FilterMap) :
    (a.apply (Q := Q) filters).1 =
        ({ a with config := a.config.unrestricted }.apply (filters.restrict a.config)).1 ∧
      (a.apply (Q := Q) filters).2.aliases =
        ({ a with config := a.config.unrestricted }.apply (Q := Q)
          (filters.restrict a.config)).2.aliases ∧
      ∀ (tight : FilterConfig) (plan : QueryPlan), tight.Tighter a.config →
        (a.apply filters).1 = .ok plan →
        ∃ narrow : QueryPlan,
          ({ a with config := tight }.apply filters).1 = .ok narrow ∧ narrow.Within plan := by
  obtain ⟨results, aliases⟩ := apply_restrict (Q := Q) a.config.tighter_unrestricted a filters
  exact ⟨results, aliases, fun _ _ tighter applied => exists_within_of_tighter tighter applied⟩

theorem apply_eq_apply_permitted_concerts :
    let filters : FilterMap := .text " when |GT" "2024-05-01" (.text "state" "Utah"
      (.nested "artist" (.text "name|like" "Ada" .empty) (.text "day|sort" "asc" .empty)))
    let loose : FilterConfig :=
      { aliases := .ofList [("when", "day")], relationships := true }
    let tight : FilterConfig :=
      { loose.withoutOperators ["gt", "like"] with filterable := .ofNames ["state", "name"] }
    let a : Applicator := { schema := .concerts, root := "performance", config := loose }
    let plan : QueryPlan :=
      { table := "performances"
        tableAlias := "entity"
        joins := [⟨"entity", "artists", "artist", "artist_id", "id"⟩]
        predicates :=
          [⟨⟨"entity", "day"⟩, .gt (.date ⟨2024, 5, 1, by decide⟩)⟩,
            ⟨⟨"entity", "state"⟩, .eq (.text "Utah")⟩, ⟨⟨"artist", "name"⟩, .like "%Ada%"⟩]
        orderBy := [(⟨"entity", "day"⟩, .asc)] }
    tight.Tighter loose ∧ (a.apply filters).1 = .ok plan ∧
      ∃ narrow : QueryPlan,
        ({ a with config := tight }.apply filters).1 = .ok narrow ∧ narrow.Within plan := by
  intro filters loose tight a plan
  have applied : (a.apply filters).1 = .ok plan := by decide +kernel
  have tighter : tight.Tighter loose :=
    { operators := fun op _ => OperatorSet.isEnabled_all op
      filterable := fun _ _ => rfl
      relationships := id
      aliases := rfl }
  obtain ⟨-, -, narrower⟩ := apply_eq_apply_permitted (Q := QueryPlan) a filters
  exact ⟨tighter, applied, narrower tight plan tighter applied⟩

end QueryFilter
