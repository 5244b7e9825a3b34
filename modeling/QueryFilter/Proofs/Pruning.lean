import QueryFilter.Proofs.Diagnostics
import QueryFilter.Schema.Concerts

/-!
# Pruned filters

Without the entries that resolution skips, filters do the same and fail alike. Validation of what is
left reports no more than the values that were taken leniently or are of the wrong type
(`pruned_is_inert`).
-/

namespace QueryFilter

/-- The filters on `entity` without the entries that are skipped, at every level that is reached. -/
def FilterMap.prune (schema : Schema) (config : FilterConfig) : FilterMap → Entity → FilterMap
  | empty, _ => empty
  | text key raw rest, entity =>
    match resolveFilter schema config entity key raw with
    | .ok (.skipped _) => rest.prune schema config entity
    | .ok (.applied _) | .error _ => text key raw (rest.prune schema config entity)
  | nested key inner rest, entity =>
    match resolveRelationship config entity key with
    | .skipped _ => rest.prune schema config entity
    | .applied association =>
      match schema.entity? association.target with
      | none => nested key inner (rest.prune schema config entity)
      | some target =>
        nested key (inner.prune schema config target) (rest.prune schema config entity)

def Applicator.prune (a : Applicator) (filters : FilterMap) : FilterMap :=
  match a.schema.entity? a.root with
  | none => filters
  | some root => filters.prune a.schema a.config root

theorem FilterMap.prune_prune (schema : Schema) (config : FilterConfig) (filters : FilterMap)
    (entity : Entity) :
    (filters.prune schema config entity).prune schema config entity =
      filters.prune schema config entity := by
  induction filters generalizing entity with
  | empty => rfl
  | text key raw rest ih =>
    cases resolved : resolveFilter schema config entity key raw with
    | error error => simp only [prune, resolved, ih]
    | ok resolution =>
      cases resolution with
      | skipped reason => simp only [prune, resolved, ih]
      | applied filter => simp only [prune, resolved, ih]
  | nested key inner rest ihInner ihRest =>
    cases followed : resolveRelationship config entity key with
    | skipped reason => simp only [prune, followed, ihRest]
    | applied association =>
      cases aimed : schema.entity? association.target with
      | none => simp only [prune, followed, aimed, ihRest]
      | some target => simp only [prune, followed, aimed, ihInner, ihRest]

/-! ### The walk through what is left -/

def Verdict.isSkipped : Verdict → Bool
  | skipped .. => true
  | applied _ | lenient .. | failed _ => false

/-- Pruning takes the skipped entries out of a walk and leaves the others in their order. -/
theorem walk_prune (schema : Schema) (config : FilterConfig) (filters : FilterMap) (entity : Entity)
    (tableAlias : String) :
    walk schema config (filters.prune schema config entity) entity tableAlias =
      (walk schema config filters entity tableAlias).filter fun v => !v.verdict.isSkipped := by
  induction filters generalizing entity tableAlias with
  | empty => rfl
  | text key raw rest ih =>
    have later := ih entity tableAlias
    rw [walk]
    unfold Verdict.ofText
    cases resolved : resolveFilter schema config entity key raw with
    | error error =>
      simp [FilterMap.prune, walk, Verdict.ofText, resolved, later, Verdict.isSkipped]
    | ok resolution =>
      cases resolution with
      | skipped reason => simp [FilterMap.prune, resolved, later, Verdict.isSkipped]
      | applied filter =>
        cases lenient : filter.lenient <;>
          simp [FilterMap.prune, walk, Verdict.ofText, resolved, lenient, later, Verdict.isSkipped]
  | nested key inner rest ihInner ihRest =>
    have later := ihRest entity tableAlias
    cases followed : resolveRelationship config entity key with
    | skipped reason => simp [FilterMap.prune, walk, followed, later, Verdict.isSkipped]
    | applied association =>
      cases aimed : schema.entity? association.target with
      | none =>
        simp [FilterMap.prune, walk, followed, Schema.declared, aimed, later, Verdict.isSkipped]
      | some target =>
        simp [FilterMap.prune, walk, followed, Schema.declared, aimed, ihInner, later,
          Verdict.isSkipped]

/-! ### Skipped entries do nothing -/

theorem Outcome.ofVisits_unskipped {Q : Type} [QueryTarget Q] (visits : List Visit) (query : Q)
    (aliases : AliasMap) :
    ofVisits (visits.filter fun v => !v.verdict.isSkipped) query aliases =
      ofVisits visits query aliases := by
  induction visits generalizing query aliases with
  | nil => rfl
  | cons visit rest ih =>
    have tail : ofVisits (Q := Q) (rest.filter fun v => !v.verdict.isSkipped) = ofVisits rest :=
      funext fun q => funext (ih q)
    have kept : ofVisits (visit :: rest.filter fun v => !v.verdict.isSkipped) query aliases =
        ofVisits (visit :: rest) query aliases := by
      rw [← List.singleton_append, ofVisits_append, tail, ← ofVisits_append, List.singleton_append]
    obtain ⟨entity, verdict⟩ := visit
    cases verdict with
    | skipped key reason => exact ih query aliases
    | applied step => exact kept
    | lenient step complaint => exact kept
    | failed error => exact kept

theorem faults_unskipped (visits : List Visit) :
    (visits.filter fun v => !v.verdict.isSkipped).findSome? Visit.fault? =
      visits.findSome? Visit.fault? := by
  induction visits with
  | nil => rfl
  | cons visit rest ih =>
    have kept : (visit :: rest.filter fun v => !v.verdict.isSkipped).findSome? Visit.fault? =
        (visit :: rest).findSome? Visit.fault? := by
      rw [List.findSome?_cons, List.findSome?_cons, ih]
    obtain ⟨entity, verdict⟩ := visit
    cases verdict with
    | skipped key reason => exact ih
    | applied step => exact kept
    | lenient step complaint => exact kept
    | failed error => exact kept

/-! ### Reports on what is left -/

theorem Visit.problem?_unskipped (visit : Visit) :
    let left := if !visit.verdict.isSkipped then visit.problem? else none
    left.bind Problem.field? = none ∧ left.bind Problem.join? = none ∧
      left.bind Problem.operator? = none ∧
      left.bind Problem.value? =
        (if visit.verdict.isLenient then visit.problem?.bind Problem.value? else none) ∧
      left.bind Problem.typedValue? = visit.problem?.bind Problem.typedValue? := by
  obtain ⟨entity, verdict⟩ := visit
  cases verdict with
  | applied step => exact ⟨rfl, rfl, rfl, rfl, rfl⟩
  | lenient step complaint => exact ⟨rfl, rfl, rfl, rfl, rfl⟩
  | skipped key reason =>
    exact ⟨rfl, rfl, rfl, rfl, (reason.typedValue?_problem key).symm⟩
  | failed error => cases error <;> exact ⟨rfl, rfl, rfl, rfl, rfl⟩

theorem Report.ofVisits_unskipped {visits : List Visit} {report : Report}
    (validated : ofVisits visits {} = .ok report) :
    ofVisits (visits.filter fun v => !v.verdict.isSkipped) {} =
      .ok
        { invalidValues := (visits.filter fun v => v.verdict.isLenient).filterMap fun v =>
            v.problem?.bind Problem.value?
          invalidTypedValues := report.invalidTypedValues } := by
  obtain ⟨noFault, rfl⟩ := ofVisits_eq_ok_iff.mp validated
  have left := Visit.problem?_unskipped
  have nothing {α : Type} : visits.filterMap (fun _ => (none : Option α)) = [] := by simp
  dsimp only at left
  refine ofVisits_eq_ok_iff.mpr ⟨(faults_unskipped visits).trans noFault, ?_⟩
  rw [addAll_eq, addAll_eq]
  simp only [List.nil_append, List.filterMap_filter, List.filterMap_filterMap, left, nothing]

theorem lenient_values_walk (schema : Schema) (config : FilterConfig) (filters : FilterMap)
    (root : Context) :
    ((walk schema config filters root.entity root.tableAlias).filter fun v =>
        v.verdict.isLenient).filterMap (fun v => v.problem?.bind Problem.value?) =
      (filters.document.filter (PlacedEntry.isLenient schema config root)).filterMap fun placed =>
        (placed.problem? schema config root).bind Problem.value? := by
  rw [walk_eq_document, List.filterMap_filter, List.filterMap_filter, List.filterMap_filterMap]
  congr 1
  funext placed
  unfold PlacedEntry.isLenient PlacedEntry.problem? PlacedEntry.visit?
  cases root.reach? schema config placed.path with
  | none => rfl
  | some context =>
    have flag := (Verdict.flags_ofEntry schema config context placed.key placed.entry).2
    simp only [Option.map_some, Option.bind_some, Option.any_some, flag]

/-! ### Whole runs -/

section
variable {a : Applicator} {filters : FilterMap}

theorem Applicator.prune_prune (a : Applicator) (filters : FilterMap) :
    a.prune (a.prune filters) = a.prune filters := by
  cases declared : a.schema.entity? a.root with
  | none => simp only [prune, declared]
  | some root => simp only [prune, declared, FilterMap.prune_prune]

theorem applyTo_prune {Q : Type} [QueryTarget Q] (query : Q) :
    a.applyTo query (a.prune filters) = a.applyTo query filters := by
  cases declared : a.schema.entity? a.root with
  | none => simp only [Applicator.prune, declared]
  | some root =>
    have present := declared_eq_ok_iff.mpr declared
    rw [applyTo_eq_ofVisits present, applyTo_eq_ofVisits present]
    simp only [Applicator.prune, declared, walk_prune, Outcome.ofVisits_unskipped]

theorem apply_prune {Q : Type} [QueryTarget Q] :
    a.apply (Q := Q) (a.prune filters) = a.apply filters := by
  unfold Applicator.apply
  simp only [applyTo_prune]

theorem validate_prune {root : Entity} {report : Report}
    (declared : a.schema.declared a.root = .ok root)
    (validated : validate a.schema a.root a.config filters = .ok report) :
    validate a.schema a.root a.config (a.prune filters) =
      .ok
        { invalidValues :=
            (filters.document.filter
              (PlacedEntry.isLenient a.schema a.config ⟨root, a.entityAlias⟩)).filterMap
                fun placed => (placed.problem? a.schema a.config ⟨root, a.entityAlias⟩).bind
                  Problem.value?
          invalidTypedValues := report.invalidTypedValues } := by
  have pruned : a.prune filters = filters.prune a.schema a.config root := by
    simp only [Applicator.prune, declared_eq_ok_iff.mp declared]
  rw [validate_eq_ofVisits a.config filters a.entityAlias declared] at validated
  rw [validate_eq_ofVisits a.config _ a.entityAlias declared, pruned, walk_prune,
    Report.ofVisits_unskipped validated, lenient_values_walk a.schema a.config filters ⟨root, _⟩]

end

/-- Without the entries that are skipped, filters make the same query and the same aliases or fail
alike, and of a report the values stay. -/
theorem pruned_is_inert {Q : Type} [QueryTarget Q] (a : Applicator) (filters : FilterMap) :
    a.apply (Q := Q) (a.prune filters) = a.apply filters ∧
    a.prune (a.prune filters) = a.prune filters ∧
    ∀ report, validate a.schema a.root a.config filters = .ok report →
      ∃ root, a.schema.entity? a.root = some root ∧
        let context : Context := ⟨root, a.entityAlias⟩
        let value? := fun placed : PlacedEntry =>
          (placed.problem? a.schema a.config context).bind Problem.value?
        report.invalidValues = filters.document.filterMap value? ∧
        validate a.schema a.root a.config (a.prune filters) =
          .ok
            { unavailableFields := []
              unavailableJoins := []
              unavailableOperators := []
              invalidValues :=
                (filters.document.filter
                  (PlacedEntry.isLenient a.schema a.config context)).filterMap value?
              invalidTypedValues := report.invalidTypedValues } := by
  refine ⟨apply_prune, a.prune_prune filters, fun report validated => ?_⟩
  cases declared : a.schema.declared a.root with
  | error error => simp [validate, declared, Except.bind] at validated
  | ok root =>
    refine ⟨root, declared_eq_ok_iff.mp declared, ?_, validate_prune declared validated⟩
    obtain ⟨-, rfl⟩ := report_eq_of_validate declared validated
    rw [Report.addAll_eq]
    exact (List.nil_append _).trans List.filterMap_filterMap

theorem pruned_is_inert_concerts :
    let a : Applicator :=
      { schema := .concerts, root := "performance", config := { relationships := true } }
    let named : FilterMap := .text "name" "Ada" .empty
    let filters : FilterMap := .text "venue" "Morrison" (.text "state|in" "Utah"
      (.text "id|between" "1" (.nested "artist" (.text "performances" "7" named)
        (.nested "label" named (.text "day" "soon" (.text "day|gtx" "soon" .empty))))))
    let report : Report :=
      { unavailableFields := ["venue", "performances"]
        unavailableJoins := ["label"]
        unavailableOperators := ["gtx"]
        invalidValues := [⟨"in", "Utah"⟩, ⟨"between", "1"⟩]
        invalidTypedValues := [⟨"date", "soon"⟩] }
    validate a.schema a.root a.config filters = .ok report ∧
      a.prune filters =
        .text "state|in" "Utah" (.nested "artist" named (.text "day" "soon" .empty)) ∧
      ∃ root, a.schema.entity? a.root = some root ∧
        let context : Context := ⟨root, a.entityAlias⟩
        let value? := fun placed : PlacedEntry =>
          (placed.problem? a.schema a.config context).bind Problem.value?
        report.invalidValues = filters.document.filterMap value? ∧
        validate a.schema a.root a.config (a.prune filters) =
          .ok
            { invalidValues :=
                (filters.document.filter
                  (PlacedEntry.isLenient a.schema a.config context)).filterMap value?
              invalidTypedValues := report.invalidTypedValues } := by
  intro a named filters report
  have validated : validate a.schema a.root a.config filters = .ok report := by decide +kernel
  obtain ⟨-, -, reported⟩ := pruned_is_inert (Q := QueryPlan) a filters
  exact ⟨validated, by decide +kernel, reported report validated⟩

end QueryFilter
