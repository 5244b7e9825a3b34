import Mathlib.Data.List.Basic
import QueryFilter.Proofs.Agreement
import QueryFilter.Proofs.Steps
import QueryFilter.Schema.Concerts

/-!
# Names of the database are private

Two schemas that differ only in the names of their tables and columns answer every filter alike:
with the same report, or the same failure and response. The queries that they make differ in names
alone (`database_names_are_private`).
-/

namespace QueryFilter

/-! ### Schemas that differ in names -/

/-- The entities differ at most in the names of their table and of columns. -/
structure Entity.Resembles (entity other : Entity) : Prop where
  name : entity.name = other.name
  primaryKey : entity.primaryKey = other.primaryKey
  fields (field : String) :
    (entity.scalarField? field).map ScalarField.fieldType =
      (other.scalarField? field).map ScalarField.fieldType
  associations (key : String) :
    (entity.association? key).map (fun link => (link.name, link.kind, link.target)) =
      (other.association? key).map fun link => (link.name, link.kind, link.target)

/-- The schemas declare the same entities, up to names of tables and columns. -/
def Schema.Resembles (schema other : Schema) : Prop :=
  ∀ name, Option.Rel Entity.Resembles (schema.entity? name) (other.entity? name)

inductive FieldMetadata.Resembles : FieldMetadata → FieldMetadata → Prop
  | scalar {field other : ScalarField} (fieldType : field.fieldType = other.fieldType) :
    Resembles (.scalar field) (.scalar other)
  | association {link other : Association} (kind : link.kind = other.kind)
    (target : link.target = other.target) : Resembles (.association link) (.association other)

variable {schema schema' : Schema} {entity entity' : Entity}

theorem Schema.Resembles.declared (resembles : schema.Resembles schema') (name : String) :
    (schema.declared name = .error (.unknownEntity name) ∧
      schema'.declared name = .error (.unknownEntity name)) ∨
    ∃ entity entity', schema.declared name = .ok entity ∧ schema'.declared name = .ok entity' ∧
      entity.Resembles entity' := by
  have related := resembles name
  unfold Schema.declared
  cases found : schema.entity? name with
  | none =>
    cases found' : schema'.entity? name with
    | none => exact .inl ⟨rfl, rfl⟩
    | some entity' =>
      rw [found, found'] at related
      exact nomatch related
  | some entity =>
    cases found' : schema'.entity? name with
    | none =>
      rw [found, found'] at related
      exact nomatch related
    | some entity' =>
      rw [found, found'] at related
      cases related with
      | some alike => exact .inr ⟨entity, entity', rfl, rfl, alike⟩

/-! ### Schemas declared alike -/

theorem Entity.Resembles.declare (name table table' : String) :
    (declare name table).Resembles (declare name table') :=
  ⟨rfl, rfl, fun _ => rfl, fun _ => rfl⟩

theorem Entity.Resembles.withFieldAs (alike : entity.Resembles entity')
    (name column column' : String) (fieldType : FieldType) :
    (entity.withFieldAs name column fieldType).Resembles
      (entity'.withFieldAs name column' fieldType) where
  name := alike.name
  primaryKey := alike.primaryKey
  fields field := by
    simp only [scalarField?, Entity.withFieldAs, Dict.get?_insert]
    split
    · rfl
    · exact alike.fields field
  associations key := by
    simp only [association?, Entity.withFieldAs, Dict.get?_erase]
    split
    · rfl
    · exact alike.associations key

theorem Entity.Resembles.withAssociation (alike : entity.Resembles entity') (kind : AssociationKind)
    (name target localColumn foreignColumn localColumn' foreignColumn' : String) :
    (entity.withAssociation kind name target localColumn foreignColumn).Resembles
      (entity'.withAssociation kind name target localColumn' foreignColumn') where
  name := alike.name
  primaryKey := alike.primaryKey
  fields field := by
    simp only [scalarField?, Entity.withAssociation, Dict.get?_erase]
    split
    · rfl
    · exact alike.fields field
  associations key := by
    simp only [association?, Entity.withAssociation, Dict.get?_insert]
    split
    · rfl
    · exact alike.associations key

theorem Schema.Resembles.register (resembles : schema.Resembles schema')
    (alike : entity.Resembles entity') :
    (schema.register entity).Resembles (schema'.register entity') := by
  intro name
  simp only [entity?, Schema.register, Dict.get?_insert, alike.name]
  split
  · exact .some alike
  · exact resembles name

/-! ### What resolution reads -/

theorem Entity.Resembles.identifierType (alike : entity.Resembles entity') :
    entity.identifierType = entity'.identifierType := by
  unfold Entity.identifierType primaryKeyType?
  rw [alike.fields, alike.primaryKey]

theorem Entity.Resembles.association (alike : entity.Resembles entity') (key : String) :
    (entity.association? key = none ∧ entity'.association? key = none) ∨
    ∃ link link', entity.association? key = some link ∧ entity'.association? key = some link' ∧
      link.name = link'.name ∧ link.kind = link'.kind ∧ link.target = link'.target := by
  have related := alike.associations key
  cases found : entity.association? key with
  | none =>
    rw [found] at related
    exact .inl ⟨rfl, Option.map_eq_none_iff.mp related.symm⟩
  | some link =>
    rw [found] at related
    obtain ⟨link', found', same⟩ := Option.map_eq_some_iff.mp related.symm
    simp only [Prod.mk.injEq] at same
    obtain ⟨name, kind, target⟩ := same
    exact .inr ⟨link, link', rfl, found', name.symm, kind.symm, target.symm⟩

theorem Entity.Resembles.metadata (alike : entity.Resembles entity') (field : String) :
    Option.Rel FieldMetadata.Resembles (entity.metadata? field) (entity'.metadata? field) := by
  have types := alike.fields field
  unfold metadata?
  cases found : entity.scalarField? field with
  | some scalar =>
    rw [found] at types
    obtain ⟨scalar', found', same⟩ := Option.map_eq_some_iff.mp types.symm
    rw [found']
    exact .some (.scalar same.symm)
  | none =>
    rw [found] at types
    rw [Option.map_eq_none_iff.mp types.symm]
    rcases alike.association field with ⟨absent, absent'⟩ | ⟨link, link', own, own', -, kind, target⟩
    · rw [absent, absent']
      exact .none
    · rw [own, own']
      exact .some (.association kind target)

/-! ### Resolution -/

def Resolution.unplaced : Resolution ResolvedFilter → Resolution ResolvedFilter
  | applied filter => applied { filter with column := "" }
  | skipped reason => skipped reason

theorem FieldMetadata.Resembles.column_type {metadata metadata' : FieldMetadata}
    (alike : metadata.Resembles metadata') (resembles : schema.Resembles schema') :
    (metadata.column schema).map Prod.snd = (metadata'.column schema').map Prod.snd := by
  cases alike with
  | scalar fieldType => exact congrArg Except.ok fieldType
  | @association link link' kind target =>
    unfold FieldMetadata.column
    dsimp only
    rw [target]
    rcases resembles.declared link'.target with ⟨hole, hole'⟩ | ⟨entity, entity', found, found', same⟩
    · rw [hole, hole']
      rfl
    · rw [found, found']
      exact congrArg Except.ok same.identifierType

theorem resolveValue_unplaced (field column raw : String) (fieldType : FieldType) (op : Operator) :
    (resolveValue field column fieldType op raw).map Resolution.unplaced =
      resolveValue field "" fieldType op raw := by
  unfold resolveValue
  cases FilterValue.decode raw fieldType op with
  | error e => cases e <;> rfl
  | ok value =>
    dsimp only
    cases Instruction.of? op value <;> rfl

theorem resolveOperator_unplaced {metadata metadata' : FieldMetadata}
    (alike : metadata.Resembles metadata') (resembles : schema.Resembles schema') (key : FilterKey)
    (raw : String) :
    (resolveOperator schema key metadata raw).map Resolution.unplaced =
      (resolveOperator schema' key metadata' raw).map Resolution.unplaced := by
  have types := alike.column_type resembles
  unfold resolveOperator
  cases key.operator with
  | implicitDisabled => rfl
  | unavailable token => rfl
  | enabled op =>
    dsimp only
    cases column : metadata.column schema with
    | error e =>
      cases column' : metadata'.column schema' with
      | error e' =>
        rw [column, column'] at types
        obtain rfl := Except.error.inj types
        rfl
      | ok found =>
        rw [column, column'] at types
        exact nomatch types
    | ok found =>
      cases column' : metadata'.column schema' with
      | error e' =>
        rw [column, column'] at types
        exact nomatch types
      | ok found' =>
        rw [column, column'] at types
        have same : found.2 = found'.2 := Except.ok.inj types
        dsimp only
        rw [resolveValue_unplaced, resolveValue_unplaced, same]

/-- Resolution reads of a schema no more than what the schemas have in common, but for the column
that it hands on. -/
theorem resolveFilter_unplaced (resembles : schema.Resembles schema')
    (alike : entity.Resembles entity') (config : FilterConfig) (key raw : String) :
    (resolveFilter schema config entity key raw).map Resolution.unplaced =
      (resolveFilter schema' config entity' key raw).map Resolution.unplaced := by
  unfold resolveFilter
  dsimp only
  generalize FilterKey.decode config.aliases config.operators key = decoded
  by_cases allowed : config.filterable.allows decoded.field
  · rw [if_neg (not_not_intro allowed), if_neg (not_not_intro allowed)]
    have related := alike.metadata decoded.field
    revert related
    generalize entity.metadata? decoded.field = found
    generalize entity'.metadata? decoded.field = found'
    intro related
    cases related with
    | none => rfl
    | some same =>
      have operated := resolveOperator_unplaced same resembles decoded raw
      cases same with
      | scalar fieldType => exact operated
      | @association link link' kind target =>
        have owning : link.isOwning = link'.isOwning := by
          unfold Association.isOwning
          rw [kind]
        dsimp only
        rw [owning]
        split
        · exact operated
        · rfl
  · rw [if_pos allowed, if_pos allowed]

/-! ### Walks -/

/-- The step without the names of aliases, tables and columns. -/
def QueryStep.nameless : QueryStep → QueryStep
  | join _ => join ⟨"", "", "", "", ""⟩
  | restrict predicate => restrict ⟨⟨"", ""⟩, predicate.comparison⟩
  | order _ direction => order ⟨"", ""⟩ direction

def Verdict.nameless : Verdict → Verdict
  | applied step => applied step.nameless
  | lenient step complaint => lenient step.nameless complaint
  | skipped key reason => skipped key reason
  | failed error => failed error

def Visit.nameless (visit : Visit) : Visit := { visit with verdict := visit.verdict.nameless }

theorem Visit.failure?_nameless (visit : Visit) : visit.nameless.failure? = visit.failure? := by
  obtain ⟨entity, verdict⟩ := visit
  cases verdict <;> rfl

theorem Visit.fault?_nameless (visit : Visit) : visit.nameless.fault? = visit.fault? := by
  obtain ⟨entity, verdict⟩ := visit
  cases verdict <;> rfl

theorem Visit.problem?_nameless (visit : Visit) : visit.nameless.problem? = visit.problem? := by
  obtain ⟨entity, verdict⟩ := visit
  cases verdict <;> rfl

theorem Visit.step?_nameless (visit : Visit) :
    visit.nameless.step? = visit.step?.map QueryStep.nameless := by
  obtain ⟨entity, verdict⟩ := visit
  cases verdict <;> rfl

theorem ResolvedFilter.nameless_step (filter : ResolvedFilter) (tableAlias : String) :
    (filter.step tableAlias).nameless =
      (({ filter with column := "" } : ResolvedFilter).step "").nameless := by
  obtain ⟨field, column, op, instruction, lenient⟩ := filter
  cases instruction <;> rfl

theorem Verdict.nameless_of_unplaced {filter filter' : ResolvedFilter}
    (same : ({ filter with column := "" } : ResolvedFilter) = { filter' with column := "" })
    (raw tableAlias tableAlias' : String) :
    (if filter.lenient then
        lenient (filter.step tableAlias) ⟨filter.operator.token, Text.trimmed raw⟩
      else applied (filter.step tableAlias)).nameless =
    (if filter'.lenient then
        lenient (filter'.step tableAlias') ⟨filter'.operator.token, Text.trimmed raw⟩
      else applied (filter'.step tableAlias')).nameless := by
  have steps : (filter.step tableAlias).nameless = (filter'.step tableAlias').nameless := by
    rw [filter.nameless_step, filter'.nameless_step, same]
  obtain ⟨-, -, operators, -, flags⟩ := ResolvedFilter.mk.inj same
  rw [flags, operators]
  split
  · exact congrArg₂ Verdict.lenient steps rfl
  · exact congrArg Verdict.applied steps

theorem Verdict.ofText_nameless {config : FilterConfig} {key raw : String}
    (same : (resolveFilter schema config entity key raw).map Resolution.unplaced =
      (resolveFilter schema' config entity' key raw).map Resolution.unplaced)
    (tableAlias tableAlias' : String) :
    (ofText schema config entity tableAlias key raw).nameless =
      (ofText schema' config entity' tableAlias' key raw).nameless := by
  unfold ofText
  cases found : resolveFilter schema config entity key raw with
  | error e =>
    cases found' : resolveFilter schema' config entity' key raw with
    | error e' =>
      rw [found, found'] at same
      obtain rfl := Except.error.inj same
      rfl
    | ok resolution =>
      rw [found, found'] at same
      exact nomatch same
  | ok resolution =>
    cases found' : resolveFilter schema' config entity' key raw with
    | error e' =>
      rw [found, found'] at same
      exact nomatch same
    | ok resolution' =>
      rw [found, found'] at same
      have unplaced : resolution.unplaced = resolution'.unplaced := Except.ok.inj same
      cases resolution with
      | skipped reason =>
        cases resolution' with
        | skipped reason' =>
          obtain rfl := Resolution.skipped.inj unplaced
          rfl
        | applied filter' => exact nomatch unplaced
      | applied filter =>
        cases resolution' with
        | skipped reason' => exact nomatch unplaced
        | applied filter' =>
          exact nameless_of_unplaced (Resolution.applied.inj unplaced) raw tableAlias tableAlias'

/-- Under schemas that resemble each other, and whatever the table is called, a walk meets the same
verdicts up to names. -/
theorem walk_nameless (resembles : schema.Resembles schema') (config : FilterConfig)
    (filters : FilterMap) (alike : entity.Resembles entity') (tableAlias tableAlias' : String) :
    (walk schema config filters entity tableAlias).map Visit.nameless =
      (walk schema' config filters entity' tableAlias').map Visit.nameless := by
  induction filters generalizing entity entity' tableAlias tableAlias' with
  | empty => rfl
  | text key raw rest ih =>
    have verdicts := Verdict.ofText_nameless
      (resolveFilter_unplaced resembles alike config key raw) tableAlias tableAlias'
    have first : Visit.nameless ⟨entity.name, .ofText schema config entity tableAlias key raw⟩ =
        Visit.nameless ⟨entity'.name, .ofText schema' config entity' tableAlias' key raw⟩ :=
      congrArg₂ Visit.mk alike.name verdicts
    exact congrArg₂ List.cons first (ih alike tableAlias tableAlias')
  | nested key inner rest ihInner ihRest =>
    simp only [walk, List.map_append]
    refine congrArg₂ _ ?_ (ihRest alike tableAlias tableAlias')
    unfold resolveRelationship
    rw [alike.name]
    cases config.relationships with
    | false => rfl
    | true =>
      rcases alike.association key with ⟨absent, absent'⟩ |
        ⟨link, link', found, found', -, -, target⟩
      · rw [absent, absent']
        rfl
      · rw [found, found']
        simp only [↓reduceIte]
        rw [target]
        rcases resembles.declared link'.target with ⟨hole, hole'⟩ |
          ⟨entity, entity', declared, declared', same⟩
        · rw [hole, hole']
        · rw [declared, declared']
          exact congrArg₂ List.cons rfl (ihInner same link.name link'.name)

/-! ### Whole runs -/

section
variable {visits visits' : List Visit} (same : visits.map Visit.nameless = visits'.map Visit.nameless)
include same

theorem failures_of_nameless :
    visits.findSome? Visit.failure? = visits'.findSome? Visit.failure? := by
  have blind : Visit.failure? ∘ Visit.nameless = Visit.failure? := funext Visit.failure?_nameless
  rw [← blind, ← List.findSome?_map, same, List.findSome?_map]

theorem Report.ofVisits_of_nameless (report : Report) :
    ofVisits visits report = ofVisits visits' report := by
  have faults : visits.findSome? Visit.fault? = visits'.findSome? Visit.fault? := by
    have blind : Visit.fault? ∘ Visit.nameless = Visit.fault? := funext Visit.fault?_nameless
    rw [← blind, ← List.findSome?_map, same, List.findSome?_map]
  have problems : visits.filterMap Visit.problem? = visits'.filterMap Visit.problem? := by
    have blind : Visit.problem? ∘ Visit.nameless = Visit.problem? :=
      funext Visit.problem?_nameless
    rw [← blind, ← List.filterMap_map, same, List.filterMap_map]
  rw [ofVisits, ofVisits, faults, problems]

theorem views_of_nameless {α : Type} (view : QueryStep → Option α)
    (blind : ∀ step, view step.nameless = view step) :
    (visits.filterMap Visit.step?).filterMap view =
      (visits'.filterMap Visit.step?).filterMap view := by
  have steps (visits : List Visit) : (visits.filterMap Visit.step?).filterMap view =
      ((visits.map Visit.nameless).filterMap Visit.step?).filterMap view := by
    rw [List.filterMap_map, List.filterMap_filterMap, List.filterMap_filterMap]
    refine List.filterMap_congr fun visit _ => ?_
    rw [Function.comp_apply, visit.step?_nameless]
    cases visit.step? with
    | none => rfl
    | some step => exact (blind step).symm
  rw [steps visits, same, ← steps visits']

end

/-- The plans differ at most in the names of aliases, tables and columns. -/
structure QueryPlan.Resembles (plan other : QueryPlan) : Prop where
  joins : plan.joins.length = other.joins.length
  comparisons : plan.predicates.map Predicate.comparison = other.predicates.map Predicate.comparison
  directions : plan.orderBy.map Prod.snd = other.orderBy.map Prod.snd

theorem QueryPlan.resembles_of_nameless {visits visits' : List Visit}
    (same : visits.map Visit.nameless = visits'.map Visit.nameless)
    (table tableAlias table' tableAlias' : String) :
    (QueryTarget.addAll (QueryTarget.selectFrom table tableAlias : QueryPlan)
      (visits.filterMap Visit.step?)).Resembles
    (QueryTarget.addAll (QueryTarget.selectFrom table' tableAlias')
      (visits'.filterMap Visit.step?)) := by
  have joins := views_of_nameless same (fun step => step.join?.map fun _ => ())
    fun step => by cases step <;> rfl
  have comparisons := views_of_nameless same (fun step => step.predicate?.map Predicate.comparison)
    fun step => by cases step <;> rfl
  have directions := views_of_nameless same (fun step => step.order?.map Prod.snd)
    fun step => by cases step <;> rfl
  simp only [← List.map_filterMap] at joins comparisons directions
  rw [addAll_eq, addAll_eq]
  refine ⟨?_, comparisons, directions⟩
  have count := congrArg List.length joins
  rw [List.length_map, List.length_map] at count
  exact count

theorem validate_eq_of_resembles (resembles : schema.Resembles schema') (root : String)
    (config : FilterConfig) (filters : FilterMap) :
    validate schema root config filters = validate schema' root config filters := by
  rcases resembles.declared root with ⟨hole, hole'⟩ | ⟨entity, entity', declared, declared', alike⟩
  · rw [validate, validate, hole, hole']
    rfl
  · rw [validate_eq_ofVisits config filters root declared,
      validate_eq_ofVisits config filters root declared']
    exact Report.ofVisits_of_nameless (walk_nameless resembles config filters alike root root) {}

structure Applicator.Resembles (a b : Applicator) : Prop where
  schema : a.schema.Resembles b.schema
  root : a.root = b.root
  config : a.config = b.config

namespace Applicator

variable {a b : Applicator}

theorem Resembles.apply_error_iff {Q : Type} [QueryTarget Q] (resembles : a.Resembles b)
    (filters : FilterMap) (error : FilterError) :
    (a.apply (Q := Q) filters).1 = .error error ↔ (b.apply (Q := Q) filters).1 = .error error := by
  rcases resembles.schema.declared a.root with ⟨hole, hole'⟩ |
    ⟨entity, entity', declared, declared', alike⟩
  · rw [resembles.root] at hole hole'
    simp only [apply, resembles.root, hole, hole']
  · rw [resembles.root] at declared'
    rw [result_apply filters declared, result_apply filters declared',
      result_ofVisits_eq_error_iff, result_ofVisits_eq_error_iff, ← resembles.config]
    have walks := walk_nameless resembles.schema a.config filters alike a.entityAlias b.entityAlias
    rw [failures_of_nameless walks]

theorem Resembles.plans (resembles : a.Resembles b) {filters : FilterMap} {plan other : QueryPlan}
    (applied : (a.apply filters).1 = .ok plan) (applied' : (b.apply filters).1 = .ok other) :
    plan.Resembles other := by
  rcases resembles.schema.declared a.root with ⟨hole, hole'⟩ |
    ⟨entity, entity', declared, declared', alike⟩
  · simp only [apply, hole] at applied
    cases applied
  · rw [resembles.root] at declared'
    rw [result_apply filters declared, result_ofVisits_eq_query_iff] at applied
    rw [result_apply filters declared', result_ofVisits_eq_query_iff, ← resembles.config] at applied'
    rw [applied.2, applied'.2]
    exact QueryPlan.resembles_of_nameless
      (walk_nameless resembles.schema a.config filters alike _ _) ..

theorem Resembles.withSettings (resembles : a.Resembles b) (settings : FilterSettings) :
    (∃ error, a.withSettings settings = .error error ∧ b.withSettings settings = .error error) ∨
    ∃ a' b', a.withSettings settings = .ok a' ∧ b.withSettings settings = .ok b' ∧
      a'.Resembles b' := by
  have config : settings.applyTo a.config = settings.applyTo b.config := by rw [resembles.config]
  unfold Applicator.withSettings
  cases settings.entityAlias with
  | none => exact .inr ⟨_, _, rfl, rfl, resembles.schema, resembles.root, config⟩
  | some name =>
    dsimp only [withEntityAlias]
    split
    · exact .inl ⟨_, rfl, rfl⟩
    · exact .inr ⟨_, _, rfl, rfl, resembles.schema, resembles.root, config⟩

theorem answer_eq (a : Applicator) (filter settings : Option String) :
    a.answer filter settings =
      (filter.elim (.ok .empty) FilterMap.ofJsonText).bind fun filters =>
        (settings.elim (.ok a) fun text =>
            (FilterSettings.ofJsonText text).bind a.withSettings).bind fun a =>
          (a.validate filters).bind fun report => report.intoResult.bind fun _ =>
            (a.apply filters).1 := by
  cases filter <;> cases settings <;> rfl

theorem Resembles.validate_eq (resembles : a.Resembles b) (filters : FilterMap) :
    a.validate filters = b.validate filters := by
  rw [validate, validate, resembles.root, resembles.config,
    validate_eq_of_resembles resembles.schema]

theorem Resembles.answer_error_iff (resembles : a.Resembles b) (filter settings : Option String)
    (error : FilterError) :
    a.answer filter settings = .error error ↔ b.answer filter settings = .error error := by
  have applied {a b : Applicator} (resembles : a.Resembles b) (filters : FilterMap) :
      ((a.validate filters).bind fun report => report.intoResult.bind fun _ =>
          (a.apply (Q := Sql.Select) filters).1) = .error error ↔
        ((b.validate filters).bind fun report => report.intoResult.bind fun _ =>
          (b.apply (Q := Sql.Select) filters).1) = .error error := by
    rw [resembles.validate_eq]
    cases b.validate filters with
    | error e => exact Iff.rfl
    | ok report =>
      simp only [Except.bind]
      cases report.intoResult with
      | error e => exact Iff.rfl
      | ok valid => exact resembles.apply_error_iff filters error
  rw [answer_eq, answer_eq]
  cases filter.elim (.ok .empty) FilterMap.ofJsonText with
  | error e => exact Iff.rfl
  | ok filters =>
    cases settings with
    | none => exact applied resembles filters
    | some text =>
      simp only [Option.elim_some]
      cases FilterSettings.ofJsonText text with
      | error e => exact Iff.rfl
      | ok settings =>
        rcases resembles.withSettings settings with ⟨e, failed, failed'⟩ | ⟨a', b', done, done', alike⟩
        · simp only [Except.bind, failed, failed']
        · simp only [Except.bind, done, done']
          exact applied alike filters

/-- The response to a request that is refused. -/
def refusal? (a : Applicator) (filter settings : Option String) : Option Response :=
  match a.answer filter settings with
  | .ok _ => none
  | .error error => some error.response

theorem Resembles.refusal_eq (resembles : a.Resembles b) (filter settings : Option String) :
    a.refusal? filter settings = b.refusal? filter settings := by
  have errors := resembles.answer_error_iff filter settings
  unfold refusal?
  cases answered : a.answer filter settings with
  | error e => rw [(errors e).mp answered]
  | ok select =>
    cases answered' : b.answer filter settings with
    | ok select' => rfl
    | error e => exact nomatch answered.symm.trans ((errors e).mpr answered')

end Applicator

/-- Schemas that differ in names of tables and columns cannot be told apart by reports, failures or
refusals, and the plans under them differ in names alone. -/
theorem database_names_are_private {a b : Applicator} (resembles : a.Resembles b) :
    (∀ filters, a.validate filters = b.validate filters) ∧
    (∀ filters error, (a.apply (Q := QueryPlan) filters).1 = .error error ↔
      (b.apply (Q := QueryPlan) filters).1 = .error error) ∧
    (∀ filters plan other, (a.apply filters).1 = .ok plan → (b.apply filters).1 = .ok other →
      QueryPlan.Resembles plan other) ∧
    (∀ filter settings, a.refusal? filter settings = b.refusal? filter settings) ∧
    (∀ message name,
      (FilterError.configuration message).response = (FilterError.unknownEntity name).response) ∧
    ∀ field field' fieldType value,
      (FilterError.invalidValue field fieldType value).response =
        (FilterError.invalidValue field' fieldType value).response := by
  refine ⟨resembles.validate_eq, resembles.apply_error_iff, fun filters plan other => ?_,
    resembles.refusal_eq, fun message name => rfl, fun field field' fieldType value => rfl⟩
  exact resembles.plans

def Schema.renamedConcerts : Schema :=
  let artist := Entity.declare "artist" "T1"
  let performance := Entity.declare "performance" "T2"
  .ofEntities
    [((artist.withFieldAs "id" "c1" .bigInteger).withFieldAs "name" "c2" .string).withAssociation
        .hasMany "performances" "performance" "c1" "c7",
      (((performance.withFieldAs "id" "c3" .integer).withFieldAs "state" "c4" .string).withFieldAs
        "day" "c5" .date).withAssociation .belongsTo "artist" "artist" "c7" "c1"
        |>.withAssociation .belongsTo "previous" "performance" "c6" "c3"]

theorem Schema.concerts_resembles : Schema.concerts.Resembles .renamedConcerts := by
  have nothing : Schema.Resembles {} {} := fun _ => .none
  have artist := ((Entity.Resembles.declare "artist" "artists" "T1").withFieldAs
    "id" "id" "c1" .bigInteger).withFieldAs "name" "name" "c2" .string
  have performance := (((Entity.Resembles.declare "performance" "performances" "T2").withFieldAs
    "id" "id" "c3" .integer).withFieldAs "state" "state" "c4" .string).withFieldAs
      "day" "day" "c5" .date
  have linked := (performance.withAssociation .belongsTo "artist" "artist" "artist_id" "id" "c7"
    "c1").withAssociation .belongsTo "previous" "performance" "previous_id" "id" "c6" "c3"
  exact (nothing.register (artist.withAssociation .hasMany "performances" "performance" "id"
    "artist_id" "c1" "c7")).register linked

theorem database_names_are_private_concerts :
    let a : Applicator :=
      { schema := .concerts, root := "performance", config := { relationships := true } }
    let b : Applicator :=
      { schema := .renamedConcerts, root := "performance", entityAlias := "row"
        config := { relationships := true } }
    let filters : FilterMap := .text "artist" "7" (.nested "artist" (.text "name|sort" "desc"
      (.text "c2" "Ada" .empty)) .empty)
    let report : Report := { unavailableFields := ["c2"] }
    let plan : QueryPlan :=
      { table := "performances", tableAlias := "entity"
        joins := [⟨"entity", "artists", "artist", "artist_id", "id"⟩]
        predicates := [⟨⟨"entity", "artist_id"⟩, .eq (.int 7)⟩]
        orderBy := [(⟨"artist", "name"⟩, .desc)] }
    let other : QueryPlan :=
      { table := "T2", tableAlias := "row"
        joins := [⟨"row", "T1", "artist", "c7", "c1"⟩]
        predicates := [⟨⟨"row", "c7"⟩, .eq (.int 7)⟩]
        orderBy := [(⟨"artist", "c2"⟩, .desc)] }
    a.Resembles b ∧ a.validate filters = .ok report ∧ b.validate filters = .ok report ∧
      (a.apply filters).1 = .ok plan ∧ (b.apply filters).1 = .ok other ∧ plan.Resembles other := by
  intro a b filters report plan other
  have resembles : a.Resembles b := ⟨Schema.concerts_resembles, rfl, rfl⟩
  obtain ⟨reports, -, plans, -⟩ := database_names_are_private resembles
  have validated : a.validate filters = .ok report := by decide +kernel
  have applied : (a.apply filters).1 = .ok plan := by decide +kernel
  have applied' : (b.apply filters).1 = .ok other := by decide +kernel
  exact ⟨resembles, validated, (reports filters).symm.trans validated, applied, applied',
    plans filters plan other applied applied'⟩

end QueryFilter
