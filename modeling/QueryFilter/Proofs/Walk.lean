import Mathlib.Data.List.TakeWhile
import QueryFilter.Applicator
import QueryFilter.Proofs.Resolution

/-!
# Walks

What an entry of a filter map comes to is a verdict. A walk lists the verdicts on all entries in the
order in which they are met, and goes on after a failure. Application takes the steps in front of
the first failure (`applyMap_eq_ofVisits`); validation takes the problems of all visits, unless one
of them is a fault of the schema (`validateMap_eq_ofVisits`).
-/

namespace QueryFilter

/-- The problem that an error is, if it lies in the filters and not in the schema. -/
def FilterError.problem? : FilterError → Option Problem
  | .invalidValue _ fieldType value => some (.typedValue ⟨fieldType.tag, value⟩)
  | .configuration _ | .unknownEntity _ | .malformedFilter _ | .validationFailed _ => none

inductive Verdict where
  | applied (step : QueryStep)
  /-- The step is taken although the value does not suit the operator. -/
  | lenient (step : QueryStep) (complaint : OperatorComplaint)
  | skipped (key : String) (reason : SkipReason)
  | failed (error : FilterError)
  deriving DecidableEq

namespace Verdict

def step? : Verdict → Option QueryStep
  | applied step | lenient step _ => some step
  | skipped .. | failed _ => none

def failure? : Verdict → Option FilterError
  | failed error => some error
  | applied _ | lenient .. | skipped .. => none

def problem? : Verdict → Option Problem
  | applied _ => none
  | lenient _ complaint => some (.value complaint)
  | skipped key reason => some (reason.problem key)
  | failed error => error.problem?

/-- The failure that no report can list. -/
def fault? (verdict : Verdict) : Option FilterError :=
  verdict.failure?.filter fun error => error.problem?.isNone

def ofText (schema : Schema) (config : FilterConfig) (entity : Entity)
    (tableAlias key raw : String) : Verdict :=
  match resolveFilter schema config entity key raw with
  | .ok (.applied filter) =>
    if filter.lenient then
      lenient (filter.step tableAlias) ⟨filter.operator.token, Text.trimmed raw⟩
    else applied (filter.step tableAlias)
  | .ok (.skipped reason) => skipped key reason
  | .error error => failed error

end Verdict

structure Visit where
  /-- The name of the entity that the entry filters. -/
  entity : String
  verdict : Verdict
  deriving DecidableEq

namespace Visit

def step? (visit : Visit) : Option QueryStep := visit.verdict.step?

def problem? (visit : Visit) : Option Problem := visit.verdict.problem?

def failure? (visit : Visit) : Option FilterError := visit.verdict.failure?

def fault? (visit : Visit) : Option FilterError := visit.verdict.fault?

end Visit

/-- The visits to `filters` on `entity`, whose table is in the query under `tableAlias`. -/
def walk (schema : Schema) (config : FilterConfig) :
    FilterMap → (entity : Entity) → (tableAlias : String) → List Visit
  | .empty, _, _ => []
  | .text key raw rest, entity, tableAlias =>
    ⟨entity.name, .ofText schema config entity tableAlias key raw⟩ ::
      walk schema config rest entity tableAlias
  | .nested key inner rest, entity, tableAlias =>
    (match resolveRelationship config entity key with
      | .skipped reason => [⟨entity.name, .skipped key reason⟩]
      | .applied association =>
        match schema.declared association.target with
        | .error error => [⟨entity.name, .failed error⟩]
        | .ok target =>
          ⟨entity.name, .applied (.join (association.join tableAlias target.table))⟩ ::
            walk schema config inner target association.name) ++
      walk schema config rest entity tableAlias

theorem walk_append (schema : Schema) (config : FilterConfig) (filters other : FilterMap)
    (entity : Entity) (tableAlias : String) :
    walk schema config (filters ++ other) entity tableAlias =
      walk schema config filters entity tableAlias ++
        walk schema config other entity tableAlias := by
  induction filters with
  | empty => rfl
  | text key raw rest ih => exact congrArg (List.cons _) ih
  | nested key inner rest _ ih =>
    exact (congrArg (_ ++ ·) ih).trans (List.append_assoc ..).symm

theorem walk_cons (schema : Schema) (config : FilterConfig) (key : String) (entry : FilterEntry)
    (rest : FilterMap) (entity : Entity) (tableAlias : String) :
    walk schema config (.cons key entry rest) entity tableAlias =
      walk schema config (.cons key entry .empty) entity tableAlias ++
        walk schema config rest entity tableAlias := by
  rw [← walk_append]
  cases entry <;> rfl

/-! ### What a verdict comes from -/

theorem failed_of_failure? {visit : Visit} {error : FilterError} (h : visit.failure? = some error) :
    visit.verdict = .failed error := by
  obtain ⟨entity, verdict⟩ := visit
  cases verdict with
  | failed e => exact congrArg Verdict.failed (Option.some.inj h)
  | applied step => exact nomatch h
  | lenient step complaint => exact nomatch h
  | skipped key reason => exact nomatch h

theorem Verdict.ofText_eq_failed_iff {schema : Schema} {config : FilterConfig} {entity : Entity}
    {tableAlias key raw : String} {error : FilterError} :
    ofText schema config entity tableAlias key raw = .failed error ↔
      resolveFilter schema config entity key raw = .error error := by
  unfold ofText
  cases resolveFilter schema config entity key raw with
  | error e => simp
  | ok resolution =>
    cases resolution with
    | skipped reason => simp
    | applied filter =>
      dsimp only
      split <;> simp

theorem Verdict.step?_ofText_eq_some_iff {schema : Schema} {config : FilterConfig}
    {entity : Entity} {tableAlias key raw : String} {step : QueryStep} :
    (ofText schema config entity tableAlias key raw).step? = some step ↔
      ∃ filter, resolveFilter schema config entity key raw = .ok (.applied filter) ∧
        filter.step tableAlias = step := by
  unfold ofText
  cases resolveFilter schema config entity key raw with
  | error error => simp [step?]
  | ok resolution =>
    cases resolution with
    | skipped reason => simp [step?]
    | applied filter =>
      dsimp only
      split <;> simp [step?]

/-! ### Application takes the steps in front of the first failure -/

def reached (visits : List Visit) : List Visit := visits.takeWhile fun v => v.failure?.isNone

theorem reached_eq_self {visits : List Visit} (sound : visits.findSome? Visit.failure? = none) :
    reached visits = visits := by
  refine List.takeWhile_eq_self_iff.mpr fun visit member => ?_
  rw [List.findSome?_eq_none_iff.mp sound visit member]
  rfl

/-- The aliases after a visit, whose step records its entity. -/
def AliasMap.record (aliases : AliasMap) (visit : Visit) : AliasMap :=
  match visit.step? with
  | some step => aliases.insert visit.entity step.source
  | none => aliases

variable {Q : Type} [QueryTarget Q]

def Outcome.ofVisits (visits : List Visit) (query : Q) (aliases : AliasMap) : Outcome Q where
  query := QueryTarget.addAll query ((reached visits).filterMap Visit.step?)
  aliases := (reached visits).foldl AliasMap.record aliases
  failure := visits.findSome? Visit.failure?

theorem Outcome.ofVisits_append (visits others : List Visit) (query : Q) (aliases : AliasMap) :
    ofVisits (visits ++ others) query aliases =
      (ofVisits visits query aliases).andThen (ofVisits others) := by
  cases failure : visits.findSome? Visit.failure? with
  | none =>
    have sound : ∀ v ∈ visits, v.failure?.isNone = true := fun v member => by
      rw [List.findSome?_eq_none_iff.mp failure v member]
      rfl
    have all := reached_eq_self failure
    have both : reached (visits ++ others) = visits ++ reached others :=
      List.takeWhile_append_of_pos sound
    simp only [ofVisits, andThen, failure, all, both, List.findSome?_append, Option.none_or,
      List.filterMap_append, List.foldl_append, QueryTarget.addAll]
  | some error =>
    obtain ⟨v, member, failed⟩ := List.exists_of_findSome?_eq_some failure
    have both : reached (visits ++ others) = reached visits := by
      rw [reached, List.takeWhile_append, if_neg]
      · rfl
      intro whole
      have sound := List.takeWhile_eq_self_iff.mp
        ((List.takeWhile_prefix _).eq_of_length whole) v member
      rw [failed] at sound
      exact nomatch sound
    simp only [ofVisits, andThen, failure, both, List.findSome?_append, Option.some_or]

theorem Outcome.ofVisits_step {visit : Visit} {step : QueryStep} (taken : visit.step? = some step)
    (query : Q) (aliases : AliasMap) :
    ofVisits [visit] query aliases =
      { query := QueryTarget.add query step
        aliases := aliases.insert visit.entity step.source } := by
  have sound : visit.failure? = none := by
    obtain ⟨entity, verdict⟩ := visit
    cases verdict with
    | failed error => exact nomatch taken
    | applied _ | lenient _ _ | skipped _ _ => rfl
  simp [ofVisits, reached, sound, taken, AliasMap.record, QueryTarget.addAll]

theorem applyFilter_eq_ofVisits (schema : Schema) (config : FilterConfig) (entity : Entity)
    (tableAlias key raw : String) (query : Q) (aliases : AliasMap) :
    applyFilter schema config entity tableAlias key raw query aliases =
      .ofVisits [⟨entity.name, .ofText schema config entity tableAlias key raw⟩] query aliases := by
  unfold applyFilter Verdict.ofText
  cases resolveFilter schema config entity key raw with
  | error error => rfl
  | ok resolution =>
    cases resolution with
    | skipped reason => rfl
    | applied filter =>
      dsimp only
      split
      all_goals rw [Outcome.ofVisits_step rfl, filter.source_step]

/-- Application follows the walk as far as the first failure. -/
theorem applyMap_eq_ofVisits (schema : Schema) (config : FilterConfig) (filters : FilterMap)
    (entity : Entity) (tableAlias : String) (query : Q) (aliases : AliasMap) :
    applyMap schema config filters entity tableAlias query aliases =
      .ofVisits (walk schema config filters entity tableAlias) query aliases := by
  induction filters generalizing entity tableAlias query aliases with
  | empty => rfl
  | text key raw rest ih =>
    rw [applyMap, walk, ← List.singleton_append, Outcome.ofVisits_append, applyFilter_eq_ofVisits]
    exact congrArg _ (funext fun q => funext (ih entity tableAlias q))
  | nested key inner rest ihInner ihRest =>
    rw [applyMap, walk, Outcome.ofVisits_append]
    have tail : applyMap schema config rest entity tableAlias =
        Outcome.ofVisits (Q := Q) (walk schema config rest entity tableAlias) :=
      funext fun q => funext (ihRest entity tableAlias q)
    rw [tail]
    congr 1
    cases resolveRelationship config entity key with
    | skipped reason => rfl
    | applied association =>
      cases declared : schema.declared association.target with
      | error error => simp only [declared]; rfl
      | ok target =>
        simp only [declared]
        rw [ihInner, ← List.singleton_append, Outcome.ofVisits_append, Outcome.ofVisits_step rfl]
        rfl

/-! ### Validation takes the problems of all visits -/

/-- A report after the visits of a walk, or the first fault of the schema among them. -/
def Report.ofVisits (visits : List Visit) (report : Report) : Except FilterError Report :=
  match visits.findSome? Visit.fault? with
  | some error => .error error
  | none => .ok (report.addAll (visits.filterMap Visit.problem?))

theorem Report.ofVisits_eq_ok_iff {visits : List Visit} {start report : Report} :
    ofVisits visits start = .ok report ↔
      visits.findSome? Visit.fault? = none ∧
        report = start.addAll (visits.filterMap Visit.problem?) := by
  unfold ofVisits
  cases visits.findSome? Visit.fault? with
  | none => simp [eq_comm]
  | some error => simp

theorem Report.ofVisits_eq_error_iff {visits : List Visit} {start : Report} {error : FilterError} :
    ofVisits visits start = .error error ↔ visits.findSome? Visit.fault? = some error := by
  unfold ofVisits
  cases visits.findSome? Visit.fault? with
  | none => simp
  | some e => simp

theorem Report.ofVisits_append (visits others : List Visit) (report : Report) :
    ofVisits (visits ++ others) report = (ofVisits visits report).bind (ofVisits others) := by
  unfold ofVisits
  rw [List.findSome?_append]
  cases visits.findSome? Visit.fault? with
  | some error => rfl
  | none =>
    simp only [Option.none_or, Except.bind, List.filterMap_append, addAll, List.foldl_append]

theorem validateFilter_eq_ofVisits (schema : Schema) (config : FilterConfig) (entity : Entity)
    (tableAlias key raw : String) (report : Report) :
    validateFilter schema config entity key raw report =
      Report.ofVisits [⟨entity.name, .ofText schema config entity tableAlias key raw⟩] report := by
  unfold validateFilter Verdict.ofText
  cases resolved : resolveFilter schema config entity key raw with
  | error error =>
    cases failure_of_resolveFilter resolved with
    | hole name => rfl
    | mistyped field fieldType value => rfl
  | ok resolution =>
    cases resolution with
    | skipped reason => rfl
    | applied filter =>
      dsimp only
      split <;> rfl

/-- Validation follows the whole walk. The alias of the table has no part in it. -/
theorem validateMap_eq_ofVisits (schema : Schema) (config : FilterConfig) (filters : FilterMap)
    (entity : Entity) (tableAlias : String) (report : Report) :
    validateMap schema config filters entity report =
      Report.ofVisits (walk schema config filters entity tableAlias) report := by
  induction filters generalizing entity tableAlias report with
  | empty => rfl
  | text key raw rest ih =>
    rw [validateMap, walk, ← List.singleton_append, Report.ofVisits_append,
      validateFilter_eq_ofVisits schema config entity tableAlias]
    exact congrArg _ (funext (ih entity tableAlias))
  | nested key inner rest ihInner ihRest =>
    rw [validateMap, walk, Report.ofVisits_append]
    have tail : validateMap schema config rest entity =
        Report.ofVisits (walk schema config rest entity tableAlias) :=
      funext (ihRest entity tableAlias)
    rw [tail]
    congr 1
    cases resolved : resolveRelationship config entity key with
    | skipped reason =>
      have join := problem_of_resolveRelationship resolved
      simp [Report.ofVisits, Visit.fault?, Visit.problem?, Verdict.fault?, Verdict.failure?,
        Verdict.problem?, join, Report.addAll]
    | applied association =>
      cases declared : schema.declared association.target with
      | error error =>
        obtain rfl := eq_of_declared_error declared
        simp only [declared]
        rfl
      | ok target =>
        simp only [declared]
        rw [← List.singleton_append, Report.ofVisits_append]
        exact ihInner target association.name report

end QueryFilter
