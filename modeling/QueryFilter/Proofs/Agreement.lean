import QueryFilter.Proofs.Document
import QueryFilter.Schema.Concerts

/-!
# Agreement of application and validation

Application stops at the first failure and validation goes on, but they agree: application fails
exactly if validation does or reports a value of the wrong type, and with the first of these.
-/

namespace QueryFilter

def Visit.mistyped? (visit : Visit) : Option TypeComplaint :=
  visit.problem?.bind Problem.typedValue?

theorem SkipReason.typedValue?_problem (key : String) (reason : SkipReason) :
    (reason.problem key).typedValue? = none := by
  cases reason <;> rfl

/-! ### One visit -/

theorem Visit.fault?_of_failure? {visit : Visit} {error : FilterError}
    (failed : visit.failure? = some error) (untold : error.problem? = none) :
    visit.fault? = some error := by
  unfold failure? at failed
  simp [fault?, Verdict.fault?, failed, untold]

theorem Visit.mistyped?_of_failure? {visit : Visit} {field value : String} {fieldType : FieldType}
    (failed : visit.failure? = some (.invalidValue field fieldType value)) :
    visit.mistyped? = some ⟨fieldType.tag, value⟩ := by
  have verdict := failed_of_failure? failed
  simp only [mistyped?, problem?, verdict, Verdict.problem?, FilterError.problem?,
    Option.bind_some, Problem.typedValue?]

/-- Every failure of a visit is a fault or a value of the wrong type, and these are failures. -/
theorem Visit.failure?_eq_none_iff (visit : Visit) :
    visit.failure? = none ↔ visit.fault? = none ∧ visit.mistyped? = none := by
  obtain ⟨entity, verdict⟩ := visit
  cases verdict with
  | applied step => exact ⟨fun _ => ⟨rfl, rfl⟩, fun _ => rfl⟩
  | lenient step complaint => exact ⟨fun _ => ⟨rfl, rfl⟩, fun _ => rfl⟩
  | skipped key reason =>
    exact ⟨fun _ => ⟨rfl, reason.typedValue?_problem key⟩, fun _ => rfl⟩
  | failed error =>
    refine ⟨fun h => (nomatch h), fun ⟨noFault, typed⟩ => ?_⟩
    cases error with
    | invalidValue field fieldType value => exact nomatch typed
    | configuration message => exact nomatch noFault
    | unknownEntity name => exact nomatch noFault
    | malformedFilter message => exact nomatch noFault
    | validationFailed report => exact nomatch noFault

/-! ### A walk -/

theorem failures_eq_none_iff (visits : List Visit) :
    visits.findSome? Visit.failure? = none ↔
      visits.findSome? Visit.fault? = none ∧ visits.filterMap Visit.mistyped? = [] := by
  simp only [List.findSome?_eq_none_iff, List.filterMap_eq_nil_iff, Visit.failure?_eq_none_iff]
  exact forall₂_and

/-- If the first failure cannot be reported, it is the first fault. -/
theorem faults_of_failures {visits : List Visit} {error : FilterError}
    (failed : visits.findSome? Visit.failure? = some error) (untold : error.problem? = none) :
    visits.findSome? Visit.fault? = some error := by
  induction visits with
  | nil => exact nomatch failed
  | cons visit rest ih =>
    rw [List.findSome?_cons] at failed ⊢
    cases first : visit.failure? with
    | none =>
      rw [first] at failed
      rw [((Visit.failure?_eq_none_iff visit).mp first).1]
      exact ih failed
    | some e =>
      rw [first] at failed
      obtain rfl := Option.some.inj failed
      rw [Visit.fault?_of_failure? first untold]

theorem mistyped_of_failures {visits : List Visit} {field value : String} {fieldType : FieldType}
    (failed : visits.findSome? Visit.failure? = some (.invalidValue field fieldType value)) :
    (visits.filterMap Visit.mistyped?).head? = some ⟨fieldType.tag, value⟩ := by
  induction visits with
  | nil => exact nomatch failed
  | cons visit rest ih =>
    rw [List.findSome?_cons] at failed
    cases first : visit.failure? with
    | none =>
      rw [first] at failed
      rw [List.filterMap_cons_none ((Visit.failure?_eq_none_iff visit).mp first).2]
      exact ih failed
    | some e =>
      rw [first] at failed
      obtain rfl := Option.some.inj failed
      rw [List.filterMap_cons_some (Visit.mistyped?_of_failure? first)]
      rfl

theorem invalidTypedValues_ofVisits {visits : List Visit} {report : Report}
    (h : Report.ofVisits visits {} = .ok report) :
    visits.findSome? Visit.fault? = none ∧
      report.invalidTypedValues = visits.filterMap Visit.mistyped? := by
  obtain ⟨noFault, rfl⟩ := Report.ofVisits_eq_ok_iff.mp h
  refine ⟨noFault, ?_⟩
  rw [Report.addAll_eq]
  simp only [List.nil_append, List.filterMap_filterMap]
  rfl

/-! ### Whole runs -/

variable {Q : Type} [QueryTarget Q]

theorem applyTo_eq_ofVisits {a : Applicator} {root : Entity}
    (declared : a.schema.declared a.root = .ok root) (query : Q) (filters : FilterMap) :
    a.applyTo query filters =
      .ofVisits (walk a.schema a.config filters root a.entityAlias) query a.aliases := by
  simp only [Applicator.applyTo, declared, applyMap_eq_ofVisits]

theorem result_apply {a : Applicator} {entity : Entity} (filters : FilterMap)
    (declared : a.schema.declared a.root = .ok entity) :
    (a.apply (Q := Q) filters).1 =
      (Outcome.ofVisits (walk a.schema a.config filters entity a.entityAlias)
        (QueryTarget.selectFrom entity.table a.entityAlias : Q) a.aliases).result := by
  simp only [Applicator.apply, declared, applyTo_eq_ofVisits declared]

theorem validate_eq_ofVisits {schema : Schema} {root : String} {entity : Entity}
    (config : FilterConfig) (filters : FilterMap) (tableAlias : String)
    (declared : schema.declared root = .ok entity) :
    validate schema root config filters =
      Report.ofVisits (walk schema config filters entity tableAlias) {} := by
  simp only [validate, declared, Except.bind, validateMap_eq_ofVisits _ _ _ _ tableAlias]

theorem result_ofVisits_eq_error_iff {visits : List Visit} {query : Q} {aliases : AliasMap}
    {error : FilterError} :
    (Outcome.ofVisits visits query aliases).result = .error error ↔
      visits.findSome? Visit.failure? = some error := by
  unfold Outcome.result Outcome.ofVisits
  dsimp only
  cases visits.findSome? Visit.failure? with
  | none => simp
  | some e => simp

theorem result_ofVisits_eq_ok_iff {visits : List Visit} {query : Q} {aliases : AliasMap} :
    (∃ q, (Outcome.ofVisits visits query aliases).result = .ok q) ↔
      visits.findSome? Visit.failure? = none := by
  unfold Outcome.result Outcome.ofVisits
  dsimp only
  cases visits.findSome? Visit.failure? with
  | none => simp
  | some e => simp

theorem result_ofVisits_eq_query_iff {visits : List Visit} {start query : Q} {aliases : AliasMap} :
    (Outcome.ofVisits visits start aliases).result = .ok query ↔
      visits.findSome? Visit.failure? = none ∧
        query = QueryTarget.addAll start (visits.filterMap Visit.step?) := by
  unfold Outcome.result Outcome.ofVisits
  dsimp only
  cases failure : visits.findSome? Visit.failure? with
  | none => simp [reached_eq_self failure, eq_comm]
  | some e => simp

theorem report_ofVisits_iff {visits : List Visit} :
    (∃ report, Report.ofVisits visits {} = .ok report ∧ report.invalidTypedValues = []) ↔
      visits.findSome? Visit.failure? = none := by
  rw [failures_eq_none_iff]
  constructor
  · rintro ⟨report, validated, typed⟩
    obtain ⟨noFault, values⟩ := invalidTypedValues_ofVisits validated
    exact ⟨noFault, values ▸ typed⟩
  · rintro ⟨noFault, typed⟩
    have validated : Report.ofVisits visits {} = .ok _ :=
      Report.ofVisits_eq_ok_iff.mpr ⟨noFault, rfl⟩
    exact ⟨_, validated, (invalidTypedValues_ofVisits validated).2.trans typed⟩

theorem problems_of_valid {visits : List Visit} {report : Report}
    (validated : Report.ofVisits visits {} = .ok report) (valid : report.isValid = true) :
    ∀ v ∈ visits, v.failure? = none ∧ v.problem? = none := by
  have typed : report.invalidTypedValues = [] := by
    simp only [Report.isValid, Bool.and_eq_true, List.isEmpty_iff] at valid
    exact valid.2
  have noFailure := report_ofVisits_iff.mp ⟨report, validated, typed⟩
  have noProblem : visits.filterMap Visit.problem? = [] := by
    obtain ⟨-, rfl⟩ := Report.ofVisits_eq_ok_iff.mp validated
    have size := Report.size_addAll {} (visits.filterMap Visit.problem?)
    rw [Report.size_eq_zero_iff.mpr valid] at size
    exact List.length_eq_zero_iff.mp (by simpa [Report.size] using size.symm)
  intro v member
  exact ⟨List.findSome?_eq_none_iff.mp noFailure v member,
    List.filterMap_eq_nil_iff.mp noProblem v member⟩

section
variable {schema : Schema} {config : FilterConfig} {filters : FilterMap} {entity : Entity}
  {tableAlias : String}

theorem failure_of_failures {error : FilterError}
    (failed : (walk schema config filters entity tableAlias).findSome? Visit.failure? =
      some error) : ResolutionFailure error := by
  obtain ⟨visit, member, failure⟩ := List.exists_of_findSome?_eq_some failed
  exact failure_of_mem_walk member failure

theorem unknownEntity_of_faults {error : FilterError}
    (fault : (walk schema config filters entity tableAlias).findSome? Visit.fault? = some error) :
    ∃ name, error = .unknownEntity name := by
  obtain ⟨visit, member, found⟩ := List.exists_of_findSome?_eq_some fault
  obtain ⟨failure, untold⟩ := Option.filter_eq_some_iff.mp found
  cases failure_of_mem_walk member failure with
  | hole name => exact ⟨name, rfl⟩
  | mistyped field fieldType value => exact nomatch untold

theorem report_of_mistyped {field value : String} {fieldType : FieldType}
    (failed : (walk schema config filters entity tableAlias).findSome? Visit.failure? =
      some (.invalidValue field fieldType value)) :
    (∃ name, Report.ofVisits (walk schema config filters entity tableAlias) {} =
      .error (.unknownEntity name)) ∨
    ∃ report, Report.ofVisits (walk schema config filters entity tableAlias) {} = .ok report ∧
      report.invalidTypedValues.head? = some ⟨fieldType.tag, value⟩ := by
  have first := mistyped_of_failures failed
  cases fault : (walk schema config filters entity tableAlias).findSome? Visit.fault? with
  | some error =>
    obtain ⟨name, rfl⟩ := unknownEntity_of_faults fault
    exact .inl ⟨name, by simp only [Report.ofVisits, fault]⟩
  | none =>
    have validated : Report.ofVisits (walk schema config filters entity tableAlias) {} = .ok _ :=
      Report.ofVisits_eq_ok_iff.mpr ⟨fault, rfl⟩
    exact .inr ⟨_, validated, (invalidTypedValues_ofVisits validated).2 ▸ first⟩

end

theorem failure_of_apply {a : Applicator} {filters : FilterMap} {error : FilterError}
    (failed : (a.apply (Q := Q) filters).1 = .error error) : ResolutionFailure error := by
  cases declared : a.schema.declared a.root with
  | error e =>
    simp only [Applicator.apply, declared] at failed
    obtain rfl := Except.error.inj failed
    exact failure_of_declared declared
  | ok root =>
    rw [result_apply filters declared] at failed
    exact failure_of_failures (result_ofVisits_eq_error_iff.mp failed)

theorem unknownEntity_of_validate {schema : Schema} {root : String} {config : FilterConfig}
    {filters : FilterMap} {error : FilterError}
    (failed : validate schema root config filters = .error error) :
    ∃ name, error = .unknownEntity name := by
  cases declared : schema.declared root with
  | error e =>
    simp only [validate, declared, Except.bind] at failed
    obtain rfl := Except.error.inj failed
    exact ⟨root, eq_of_declared_error declared⟩
  | ok entity =>
    rw [validate_eq_ofVisits config filters entity.name declared] at failed
    exact unknownEntity_of_faults (Report.ofVisits_eq_error_iff.mp failed)

/-- Application succeeds exactly if validation gives a report without a value of the wrong type, and
fails at the first such value or undeclared entity. -/
theorem apply_agrees_with_validate (a : Applicator) (filters : FilterMap) :
    ((∃ query : Q, (a.apply filters).1 = .ok query) ↔
      ∃ report, validate a.schema a.root a.config filters = .ok report ∧
        report.invalidTypedValues = []) ∧
    (∀ report, validate a.schema a.root a.config filters = .ok report → report.isValid = true →
      ∃ query : Q, (a.apply filters).1 = .ok query) ∧
    (∀ name, (a.apply (Q := Q) filters).1 = .error (.unknownEntity name) →
      validate a.schema a.root a.config filters = .error (.unknownEntity name)) ∧
    (∀ field fieldType value,
      (a.apply (Q := Q) filters).1 = .error (.invalidValue field fieldType value) →
      (∃ name, validate a.schema a.root a.config filters = .error (.unknownEntity name)) ∨
      ∃ report, validate a.schema a.root a.config filters = .ok report ∧
        report.invalidTypedValues.head? = some ⟨fieldType.tag, value⟩) ∧
    (∀ error, (a.apply (Q := Q) filters).1 = .error error → ResolutionFailure error) := by
  cases declared : a.schema.declared a.root with
  | error error =>
    obtain rfl := eq_of_declared_error declared
    have applied : (a.apply (Q := Q) filters).1 = .error (.unknownEntity a.root) := by
      simp only [Applicator.apply, declared]
    have validated : validate a.schema a.root a.config filters = .error (.unknownEntity a.root) := by
      simp only [validate, declared, Except.bind]
    simp only [applied, validated]
    refine ⟨by simp, by simp, fun name same => ?_, by simp, fun error same => ?_⟩
    · obtain rfl := FilterError.unknownEntity.inj (Except.error.inj same)
      rfl
    · obtain rfl := Except.error.inj same
      exact .hole _
  | ok entity =>
    rw [result_apply filters declared,
      validate_eq_ofVisits a.config filters a.entityAlias declared]
    refine ⟨result_ofVisits_eq_ok_iff.trans report_ofVisits_iff.symm, fun report validated valid => ?_,
      fun name failed => ?_, fun field fieldType value failed => ?_, fun error failed => ?_⟩
    · simp only [Report.isValid, Bool.and_eq_true, List.isEmpty_iff] at valid
      have noFailure := report_ofVisits_iff.mp ⟨report, validated, valid.2⟩
      exact result_ofVisits_eq_ok_iff.mpr noFailure
    · have fault := faults_of_failures (result_ofVisits_eq_error_iff.mp failed) rfl
      simp only [Report.ofVisits, fault]
    · exact report_of_mistyped (result_ofVisits_eq_error_iff.mp failed)
    · exact failure_of_failures (result_ofVisits_eq_error_iff.mp failed)

theorem apply_agrees_with_validate_concerts :
    ∃ report, validate .concerts "performance" { relationships := true }
        (.text "state|in" "Utah" (.text "day|gt" "soon"
          (.nested "artist" (.text "id" "x" .empty) .empty))) = .ok report ∧
      report.invalidTypedValues.head? = some ⟨"date", "soon"⟩ := by
  obtain ⟨-, -, -, mistyped, -⟩ := apply_agrees_with_validate (Q := QueryPlan)
    { schema := .concerts, root := "performance", config := { relationships := true } }
    (.text "state|in" "Utah" (.text "day|gt" "soon"
      (.nested "artist" (.text "id" "x" .empty) .empty)))
  obtain ⟨name, undeclared⟩ | reported := mistyped "day" .date "soon" (by decide +kernel)
  · have validated : validate .concerts "performance" { relationships := true }
        (.text "state|in" "Utah" (.text "day|gt" "soon"
          (.nested "artist" (.text "id" "x" .empty) .empty))) =
        .ok { invalidValues := [⟨"in", "Utah"⟩]
              invalidTypedValues := [⟨"date", "soon"⟩, ⟨"bigint", "x"⟩] } := by decide +kernel
    exact nomatch validated.symm.trans undeclared
  · exact reported

end QueryFilter
