import QueryFilter.Proofs.Walk
import QueryFilter.Schema.Concerts

/-!
# Checks of keys

Three things are checked of a key before the schema and the value come in. The first check that
fails decides, and nothing later has a part in the outcome (`first_failed_check_decides`).
-/

namespace QueryFilter

/-- What is checked of a key before its value is read. -/
inductive KeyCheck where
  | filterable
  | comparable
  | operator
  deriving DecidableEq, Repr

namespace KeyCheck

/-- Every check, in the order in which they decide. -/
def order : List KeyCheck := [filterable, comparable, operator]

/-- The reason to skip a key that fails the check, whatever comes of the other checks. -/
def reason? (config : FilterConfig) (entity : Entity) (key : FilterKey) :
    KeyCheck → Option SkipReason
  | filterable => if config.filterable.allows key.field then none else some .notFilterable
  | comparable =>
    match entity.metadata? key.field with
    | none => some .unknownField
    | some (.scalar _) => none
    | some (.association link) => if link.isOwning then none else some .inverseAssociation
  | operator =>
    match key.operator with
    | .enabled _ => none
    | .implicitDisabled => some .implicitEqualityDisabled
    | .unavailable token => some (.unavailableOperator token)

end KeyCheck

/-- The reason of the first check that the key fails, if it fails any. -/
def FilterKey.firstReason? (config : FilterConfig) (entity : Entity) (key : FilterKey) :
    Option SkipReason :=
  KeyCheck.order.findSome? (KeyCheck.reason? config entity key)

section
variable {config : FilterConfig} {entity : Entity} {decoded : FilterKey} {key : String}
  {reason : SkipReason}

/-! ### The checks one by one -/

theorem KeyCheck.filterable_eq_none_iff :
    filterable.reason? config entity decoded = none ↔
      config.filterable.allows decoded.field = true := by
  unfold reason?
  cases config.filterable.allows decoded.field <;> simp

theorem KeyCheck.comparable_eq_none_iff :
    comparable.reason? config entity decoded = none ↔
      ∃ metadata, entity.metadata? decoded.field = some metadata ∧
        metadata.isComparable = true := by
  unfold reason?
  cases entity.metadata? decoded.field with
  | none => simp
  | some metadata =>
    cases metadata with
    | scalar field => simp [FieldMetadata.isComparable]
    | association link => cases owning : link.isOwning <;> simp [FieldMetadata.isComparable, owning]

theorem KeyCheck.operator_eq_none_iff :
    operator.reason? config entity decoded = none ↔ ∃ op, decoded.operator = .enabled op := by
  unfold reason?
  cases decoded.operator <;> simp

theorem FilterKey.firstReason?_eq_or :
    decoded.firstReason? config entity =
      (KeyCheck.filterable.reason? config entity decoded).or
        ((KeyCheck.comparable.reason? config entity decoded).or
          (KeyCheck.operator.reason? config entity decoded)) := by
  unfold firstReason? KeyCheck.order
  simp only [List.findSome?_cons, List.findSome?_nil]
  cases KeyCheck.filterable.reason? config entity decoded with
  | some reason => rfl
  | none =>
    cases KeyCheck.comparable.reason? config entity decoded with
    | some reason => rfl
    | none => cases KeyCheck.operator.reason? config entity decoded <;> rfl

/-! ### Keys that fail a check -/

section
variable (read : FilterKey.decode config.aliases config.operators key = decoded)

include read

theorem resolveFilter_of_filterable
    (failed : KeyCheck.filterable.reason? config entity decoded = some reason) (schema : Schema)
    (raw : String) : resolveFilter schema config entity key raw = .ok (.skipped reason) := by
  dsimp only [KeyCheck.reason?] at failed
  unfold resolveFilter
  rw [read]
  split at failed
  · exact nomatch failed
  · rename_i denied
    obtain rfl := Option.some.inj failed
    exact if_pos denied

theorem resolveFilter_of_comparable (allowed : config.filterable.allows decoded.field = true)
    (failed : KeyCheck.comparable.reason? config entity decoded = some reason) (schema : Schema)
    (raw : String) : resolveFilter schema config entity key raw = .ok (.skipped reason) := by
  dsimp only [KeyCheck.reason?] at failed
  unfold resolveFilter
  rw [read]
  dsimp only
  rw [if_neg fun denied => denied allowed]
  split at failed
  · rename_i unknown
    obtain rfl := Option.some.inj failed
    rw [unknown]
  · exact nomatch failed
  · rename_i link found
    split at failed
    · exact nomatch failed
    · rename_i inverse
      obtain rfl := Option.some.inj failed
      rw [found]
      exact if_neg inverse

theorem resolveFilter_of_operator {metadata : FieldMetadata}
    (allowed : config.filterable.allows decoded.field = true)
    (found : entity.metadata? decoded.field = some metadata)
    (comparable : metadata.isComparable = true)
    (failed : KeyCheck.operator.reason? config entity decoded = some reason) (schema : Schema)
    (raw : String) : resolveFilter schema config entity key raw = .ok (.skipped reason) := by
  rw [resolveFilter_eq_resolveOperator read allowed found comparable]
  dsimp only [KeyCheck.reason?] at failed
  unfold resolveOperator
  split at failed
  · exact nomatch failed
  all_goals
    rename_i operator
    obtain rfl := Option.some.inj failed
    rw [operator]

theorem resolveFilter_of_firstReason?
    (failed : decoded.firstReason? config entity = some reason) (schema : Schema) (raw : String) :
    resolveFilter schema config entity key raw = .ok (.skipped reason) := by
  rw [FilterKey.firstReason?_eq_or] at failed
  rcases Option.or_eq_some_iff.mp failed with denied | ⟨filterable, failed⟩
  · exact resolveFilter_of_filterable read denied schema raw
  have allowed := KeyCheck.filterable_eq_none_iff.mp filterable
  rcases Option.or_eq_some_iff.mp failed with incomparable | ⟨comparable, unavailable⟩
  · exact resolveFilter_of_comparable read allowed incomparable schema raw
  · obtain ⟨metadata, found, isComparable⟩ := KeyCheck.comparable_eq_none_iff.mp comparable
    exact resolveFilter_of_operator read allowed found isComparable unavailable schema raw

end

/-! ### Keys that pass every check -/

theorem resolveFilter_of_passed
    (read : FilterKey.decode config.aliases config.operators key = decoded)
    (passed : decoded.firstReason? config entity = none) :
    ∃ op metadata, entity.metadata? decoded.field = some metadata ∧ ∀ schema raw,
        resolveFilter schema config entity key raw =
          (metadata.column schema).bind fun found =>
            resolveValue decoded.field found.1 found.2 op raw := by
  rw [FilterKey.firstReason?_eq_or] at passed
  obtain ⟨filterable, passed⟩ := Option.or_eq_none_iff.mp passed
  obtain ⟨comparable, available⟩ := Option.or_eq_none_iff.mp passed
  obtain ⟨metadata, found, isComparable⟩ := KeyCheck.comparable_eq_none_iff.mp comparable
  obtain ⟨op, operator⟩ := KeyCheck.operator_eq_none_iff.mp available
  refine ⟨op, metadata, found, fun schema raw => ?_⟩
  rw [resolveFilter_eq_resolveOperator read (KeyCheck.filterable_eq_none_iff.mp filterable) found
    isComparable]
  unfold resolveOperator
  rw [operator]
  cases metadata.column schema <;> rfl

end

/-! ### Columns and values -/

section
variable {schema other : Schema} {entity : Entity} {field column raw name : String}
  {metadata : FieldMetadata} {fieldType : FieldType} {op : Operator}

theorem column_eq_hole_iff :
    metadata.column schema = .error (.unknownEntity name) ↔
      ∃ link, metadata = .association link ∧ link.target = name ∧ schema.entity? name = none := by
  constructor
  · intro failed
    obtain ⟨link, rfl, undeclared⟩ := declared_of_column_error failed
    obtain ⟨rfl, absent⟩ := declared_eq_hole_iff.mp undeclared
    exact ⟨link, rfl, rfl, absent⟩
  · rintro ⟨link, rfl, rfl, absent⟩
    rw [FieldMetadata.column, declared_eq_hole_iff.mpr ⟨rfl, absent⟩]
    rfl

theorem field_or_target_of_column {found : String × FieldType}
    (listed : entity.metadata? field = some metadata)
    (columned : metadata.column schema = .ok found) :
    (entity.scalarField? field).isSome = true ∨
      ∃ link, entity.association? field = some link ∧
        (schema.entity? link.target).isSome = true := by
  cases metadata with
  | scalar column =>
    left
    rw [Entity.metadata?_eq_scalar_iff.mp listed]
    rfl
  | association link =>
    refine .inr ⟨link, Entity.metadata?_eq_association_iff.mp listed, ?_⟩
    cases target : schema.entity? link.target with
    | none =>
      have undeclared := column_eq_hole_iff.mpr ⟨link, rfl, rfl, target⟩
      rw [columned] at undeclared
      cases undeclared
    | some entity => rfl

theorem column_congr
    (same : ∀ link, metadata = .association link →
      schema.entity? link.target = other.entity? link.target) :
    metadata.column schema = metadata.column other := by
  cases metadata with
  | scalar field => rfl
  | association link => simp only [FieldMetadata.column, Schema.declared, same link rfl]

theorem resolveValue_ne_hole :
    resolveValue field column fieldType op raw ≠ .error (.unknownEntity name) := by
  intro failed
  unfold resolveValue at failed
  split at failed
  · exact nomatch Except.error.inj failed
  · exact nomatch failed
  · split at failed <;> exact nomatch failed

theorem exists_shape_of_resolveValue {reason : SkipReason}
    (skipped : resolveValue field column fieldType op raw = .ok (.skipped reason)) :
    ∃ op text, reason = .valueShape op text := by
  unfold resolveValue at skipped
  split at skipped
  · exact nomatch skipped
  · exact ⟨_, _, (Resolution.skipped.inj (Except.ok.inj skipped)).symm⟩
  · split at skipped
    · exact nomatch Except.ok.inj skipped
    · exact ⟨_, _, (Resolution.skipped.inj (Except.ok.inj skipped)).symm⟩

end

/-! ### Outcomes -/

section
variable {schema schema' : Schema} {config : FilterConfig} {entity : Entity} {decoded : FilterKey}
  {key raw raw' : String}

theorem reason_of_resolveFilter {reason : SkipReason}
    (read : FilterKey.decode config.aliases config.operators key = decoded)
    (skipped : resolveFilter schema config entity key raw = .ok (.skipped reason)) :
    decoded.firstReason? config entity = some reason ∨
      decoded.firstReason? config entity = none ∧ ∃ op text, reason = .valueShape op text := by
  cases checked : decoded.firstReason? config entity with
  | some first =>
    rw [resolveFilter_of_firstReason? read checked] at skipped
    exact .inl (congrArg some (Resolution.skipped.inj (Except.ok.inj skipped)))
  | none =>
    obtain ⟨op, metadata, -, resolves⟩ := resolveFilter_of_passed read checked
    rw [resolves] at skipped
    cases columned : metadata.column schema with
    | error error =>
      rw [columned] at skipped
      exact nomatch skipped
    | ok found =>
      rw [columned] at skipped
      exact .inr ⟨rfl, exists_shape_of_resolveValue skipped⟩

theorem resolveFilter_eq_hole_iff {name : String}
    (read : FilterKey.decode config.aliases config.operators key = decoded) :
    resolveFilter schema config entity key raw = .error (.unknownEntity name) ↔
      decoded.firstReason? config entity = none ∧
        ∃ link, entity.association? decoded.field = some link ∧ link.target = name ∧
          schema.entity? name = none := by
  cases checked : decoded.firstReason? config entity with
  | some first =>
    rw [resolveFilter_of_firstReason? read checked]
    simp
  | none =>
    obtain ⟨op, metadata, listed, resolves⟩ := resolveFilter_of_passed read checked
    have hole : resolveFilter schema config entity key raw = .error (.unknownEntity name) ↔
        metadata.column schema = .error (.unknownEntity name) := by
      rw [resolves]
      cases metadata.column schema with
      | error error => simp only [Except.bind, Except.error.injEq]
      | ok found => exact ⟨fun failed => absurd failed resolveValue_ne_hole, nofun⟩
    rw [hole, column_eq_hole_iff]
    constructor
    · rintro ⟨link, rfl, undeclared⟩
      exact ⟨rfl, link, Entity.metadata?_eq_association_iff.mp listed, undeclared⟩
    · rintro ⟨-, link, linked, undeclared⟩
      have same := listed.symm.trans (Entity.metadata?_eq_association_iff.mpr linked)
      exact ⟨link, Option.some.inj same, undeclared⟩

theorem column_of_values_differ
    (read : FilterKey.decode config.aliases config.operators key = decoded)
    (differ : resolveFilter schema config entity key raw ≠
      resolveFilter schema config entity key raw') :
    decoded.firstReason? config entity = none ∧
      ((entity.scalarField? decoded.field).isSome = true ∨
        ∃ link, entity.association? decoded.field = some link ∧
          (schema.entity? link.target).isSome = true) := by
  cases checked : decoded.firstReason? config entity with
  | some first =>
    have skips := @resolveFilter_of_firstReason? config entity decoded key first read checked
    exact absurd ((skips _ _).trans (skips _ _).symm) differ
  | none =>
    obtain ⟨op, metadata, listed, resolves⟩ := resolveFilter_of_passed read checked
    rw [resolves, resolves] at differ
    cases columned : metadata.column schema with
    | error error =>
      rw [columned] at differ
      exact absurd rfl differ
    | ok found => exact ⟨rfl, field_or_target_of_column listed columned⟩

theorem target_of_schemas_differ
    (read : FilterKey.decode config.aliases config.operators key = decoded)
    (differ : resolveFilter schema config entity key raw ≠
      resolveFilter schema' config entity key raw) :
    decoded.firstReason? config entity = none ∧
      ∃ link, entity.association? decoded.field = some link ∧
        schema.entity? link.target ≠ schema'.entity? link.target := by
  cases checked : decoded.firstReason? config entity with
  | some first =>
    have skips := @resolveFilter_of_firstReason? config entity decoded key first read checked
    exact absurd ((skips _ _).trans (skips _ _).symm) differ
  | none =>
    obtain ⟨op, metadata, listed, resolves⟩ := resolveFilter_of_passed read checked
    rw [resolves, resolves] at differ
    refine ⟨rfl, ?_⟩
    by_contra alike
    refine differ (congrArg (Except.bind · _) (column_congr ?_))
    rintro link rfl
    by_contra different
    exact alike ⟨link, Entity.metadata?_eq_association_iff.mp listed, different⟩

end

/-- The first check that a key fails decides alone, and only behind all checks do the schema and the
value count. -/
theorem first_failed_check_decides (config : FilterConfig) (entity : Entity) (key : String) :
    let decoded := FilterKey.decode config.aliases config.operators key
    let first := decoded.firstReason? config entity
    let outcome := fun schema raw => resolveFilter schema config entity key raw
    (∀ reason, first = some reason → ∀ schema raw, outcome schema raw = .ok (.skipped reason)) ∧
    (∀ schema raw reason, outcome schema raw = .ok (.skipped reason) →
      first = some reason ∨ first = none ∧ ∃ op text, reason = .valueShape op text) ∧
    (∀ schema raw name, outcome schema raw = .error (.unknownEntity name) ↔
      first = none ∧ ∃ link, entity.association? decoded.field = some link ∧
        link.target = name ∧ schema.entity? name = none) ∧
    (∀ schema raw raw', outcome schema raw ≠ outcome schema raw' →
      first = none ∧ ((entity.scalarField? decoded.field).isSome = true ∨
        ∃ link, entity.association? decoded.field = some link ∧
          (schema.entity? link.target).isSome = true)) ∧
    ∀ schema schema' raw, outcome schema raw ≠ outcome schema' raw →
      first = none ∧ ∃ link, entity.association? decoded.field = some link ∧
        schema.entity? link.target ≠ schema'.entity? link.target := by
  intro decoded first outcome
  exact ⟨fun reason failed => resolveFilter_of_firstReason? rfl failed,
    fun schema raw reason => reason_of_resolveFilter rfl,
    fun schema raw name => resolveFilter_eq_hole_iff rfl,
    fun schema raw raw' => column_of_values_differ rfl,
    fun schema schema' raw => target_of_schemas_differ rfl⟩

/-- Keys that fail up to three checks at once, with the empty schema around them. -/
theorem first_failed_check_decides_concerts :
    let config : FilterConfig :=
      { operators := .removeAll .all ["gt", "eq"]
        filterable := .ofNames ["venue", "performances", "artist", "state"] }
    ∃ performance artist, Schema.concerts.entity? "performance" = some performance ∧
      Schema.concerts.entity? "artist" = some artist ∧
      ∀ schema raw,
        resolveFilter schema config performance "place|gt" raw = .ok (.skipped .notFilterable) ∧
        resolveFilter schema config performance "venue" raw = .ok (.skipped .unknownField) ∧
        resolveFilter schema config artist "performances| GT" raw =
          .ok (.skipped .inverseAssociation) ∧
        resolveFilter schema config performance "artist| GT" raw =
          .ok (.skipped (.unavailableOperator "gt")) ∧
        resolveFilter schema config performance "artist" raw =
          .ok (.skipped .implicitEqualityDisabled) ∧
        resolveFilter {} config performance "artist|neq" raw =
          .error (.unknownEntity "artist") := by
  intro config
  let performance := (Schema.concerts.entity? "performance").get (by decide +kernel)
  let artist := (Schema.concerts.entity? "artist").get (by decide +kernel)
  refine ⟨performance, artist, by decide +kernel, by decide +kernel, fun schema raw => ?_⟩
  obtain ⟨-, -, hole, -⟩ := first_failed_check_decides config performance "artist|neq"
  exact ⟨(first_failed_check_decides config performance "place|gt").1 _ (by decide +kernel) _ _,
    (first_failed_check_decides config performance "venue").1 _ (by decide +kernel) _ _,
    (first_failed_check_decides config artist "performances| GT").1 _ (by decide +kernel) _ _,
    (first_failed_check_decides config performance "artist| GT").1 _ (by decide +kernel) _ _,
    (first_failed_check_decides config performance "artist").1 _ (by decide +kernel) _ _,
    (hole _ _ _).mpr
      ⟨by decide +kernel, ⟨"artist", "artist", .belongsTo, "artist_id", "id"⟩, by decide +kernel,
        rfl, rfl⟩⟩

end QueryFilter
