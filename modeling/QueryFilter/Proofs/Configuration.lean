import QueryFilter.Proofs.AliasRecords
import QueryFilter.Proofs.Declarations
import QueryFilter.Proofs.Typing
import QueryFilter.Schema.Concerts

/-!
# Configurations

An applicator is configured call by call. Some calls take something away for good, some add to what
is there and some replace it, so each part of a configuration is a different function of the calls
that were made (`Accumulates`, `configuration_accumulates`).
-/

namespace QueryFilter

/-- A call that configures an applicator. -/
inductive ConfigCall where
  | removeOperator (token : String)
  | removeOperators (tokens : List String)
  | enableRelationships
  | fieldAliases (aliases : List (String × String))
  | filterableFields (names : List String)
  | filterable (fields : FilterableFields)
  | entityAlias (name : String)
  | settings (settings : FilterSettings)

namespace ConfigCall

def run (a : Applicator) : ConfigCall → Except FilterError Applicator
  | removeOperator token => .ok (a.removeOperator token)
  | removeOperators tokens => .ok (a.removeOperators tokens)
  | enableRelationships => .ok a.enableRelationships
  | fieldAliases aliases => .ok (a.withFieldAliases aliases)
  | filterableFields names => .ok (a.withFilterableFields names)
  | filterable fields => .ok (a.withFilterable fields)
  | entityAlias name => a.withEntityAlias name
  | settings given => a.withSettings given

/-! ### What a call asks for -/

/-- The tokens that the call names to be removed. -/
def removed : ConfigCall → List String
  | removeOperator token => [token]
  | removeOperators tokens => tokens
  | settings given => given.removedOperators
  | _ => []

/-- Whether the call turns relationships on. None turns them off. -/
def enables : ConfigCall → Bool
  | enableRelationships => true
  | settings given => given.relationships
  | _ => false

def alias? : ConfigCall → Option String
  | entityAlias name => some name
  | settings given => given.entityAlias
  | _ => none

def fields? : ConfigCall → Option FilterableFields
  | filterableFields names => some (.ofNames names)
  | filterable fields => some fields
  | settings given => given.filterableFields.map .ofNames
  | _ => none

/-- What the call makes of the field alias `key`, if it has a say in it. A list of aliases has one
in every key, and settings only in their own keys. -/
def meaning? (key : String) : ConfigCall → Option (Option String)
  | fieldAliases aliases => some ((aliases.filter fun e => e.1 == key).getLast?.map Prod.snd)
  | settings given => (given.aliases.get? key).map some
  | _ => none

end ConfigCall

/-- Makes the calls one after another, up to the first that fails. -/
def Applicator.configure (a : Applicator) (calls : List ConfigCall) :
    Except FilterError Applicator :=
  calls.foldlM ConfigCall.run a

/-- An operator is gone once it is named, the relationships are on once they are enabled, and of all
else the last call with a say in it counts. -/
structure Applicator.Accumulates (a : Applicator) (calls : List ConfigCall) : Prop where
  operators : a.config.operators.enabled =
    Operator.all.filter fun op => op.token ∉ calls.flatMap ConfigCall.removed
  relationships : a.config.relationships = true ↔ ∃ call ∈ calls, call.enables = true
  entityAlias : a.entityAlias = (calls.filterMap ConfigCall.alias?).getLast?.getD "entity"
  filterable : a.config.filterable = (calls.filterMap ConfigCall.fields?).getLast?.getD .all
  aliases : ∀ key,
    a.config.aliases.get? key = (calls.filterMap (ConfigCall.meaning? key)).getLast?.join

/-! ### One call -/

def ConfigCall.change (config : FilterConfig) : ConfigCall → FilterConfig
  | removeOperator token => config.withoutOperator token
  | removeOperators tokens => config.withoutOperators tokens
  | enableRelationships => config.withRelationships true
  | fieldAliases aliases => config.withAliases aliases
  | filterableFields names => config.withFilterableFields names
  | filterable fields => { config with filterable := fields }
  | entityAlias _ => config
  | settings given => given.applyTo config

namespace ConfigCall

section
variable (call : ConfigCall) (config : FilterConfig)

theorem enabled_change :
    (call.change config).operators.enabled =
      config.operators.enabled.filter fun op => op.token ∉ call.removed := by
  have kept : config.operators.enabled = config.operators.enabled.filter fun op => op.token ∉ [] :=
    (List.filter_eq_self.mpr fun op _ => by simp).symm
  cases call with
  | removeOperator token => exact config.operators.enabled_removeAll [token]
  | removeOperators tokens => exact config.operators.enabled_removeAll tokens
  | settings given => exact config.operators.enabled_removeAll given.removedOperators
  | enableRelationships | fieldAliases aliases | filterableFields names | filterable fields
  | entityAlias name => exact kept

theorem relationships_change :
    (call.change config).relationships = (config.relationships || call.enables) := by
  cases call with
  | enableRelationships => exact (Bool.or_true _).symm
  | settings given => rfl
  | removeOperator token | removeOperators tokens | fieldAliases aliases | filterableFields names
  | filterable fields | entityAlias name => exact (Bool.or_false _).symm

theorem filterable_change :
    (call.change config).filterable = call.fields?.getD config.filterable := by
  cases call <;> rfl

theorem get?_aliases_change (key : String) :
    (call.change config).aliases.get? key =
      (call.meaning? key).getD (config.aliases.get? key) := by
  cases call with
  | fieldAliases aliases =>
    have empty : (Dict.empty : Dict String).get? key = none := rfl
    rw [change, FilterConfig.withAliases, Dict.ofList, Dict.get?_insertAll, empty, Option.or_none]
    rfl
  | settings given =>
    have overwritten := Dict.get?_overwrite config.aliases given.aliases key
    refine overwritten.trans ?_
    rw [meaning?]
    cases given.aliases.get? key <;> rfl
  | removeOperator token | removeOperators tokens | enableRelationships | filterableFields names
  | filterable fields | entityAlias name => rfl

end

end ConfigCall

/-! ### Sequences of calls -/

section
variable {a b : Applicator} {call : ConfigCall} {calls : List ConfigCall} {error : FilterError}

theorem Applicator.withSettings_eq (given : FilterSettings) :
    a.withSettings given =
      if given.entityAlias = some "" then .error (.configuration "Entity alias cannot be empty")
      else .ok { a with
        config := given.applyTo a.config
        entityAlias := given.entityAlias.getD a.entityAlias } := by
  unfold withSettings
  cases given.entityAlias with
  | none => rfl
  | some name =>
    simp only [withEntityAlias, Option.some.injEq]
    rfl

/-- A call fails for an empty alias of the root, and otherwise changes the configuration and the
alias alone. -/
theorem ConfigCall.run_eq :
    call.run a =
      if call.alias? = some "" then .error (.configuration "Entity alias cannot be empty")
      else .ok { a with
        config := call.change a.config
        entityAlias := call.alias?.getD a.entityAlias } := by
  cases call with
  | entityAlias name =>
    simp only [run, alias?, Applicator.withEntityAlias, Option.some.injEq]
    rfl
  | settings given => exact Applicator.withSettings_eq given
  | removeOperator token | removeOperators tokens | enableRelationships | fieldAliases aliases
  | filterableFields names | filterable fields => rfl

theorem Applicator.configure_append (calls rest : List ConfigCall) :
    a.configure (calls ++ rest) = (a.configure calls).bind (·.configure rest) :=
  List.foldlM_append

theorem Applicator.configure_cons :
    a.configure (call :: calls) = (call.run a).bind (·.configure calls) :=
  List.foldlM_cons

theorem Applicator.configure_eq_error_iff :
    a.configure calls = .error error ↔
      error = .configuration "Entity alias cannot be empty" ∧
        ∃ call ∈ calls, call.alias? = some "" := by
  induction calls generalizing a with
  | nil => simp [configure, pure, Except.pure]
  | cons call rest ih =>
    rw [configure_cons, ConfigCall.run_eq]
    by_cases empty : call.alias? = some ""
    · simp [Except.bind, empty, eq_comm]
    · simp [Except.bind, empty, ih]

theorem ConfigCall.eq_of_run (done : call.run a = .ok b) :
    b = { a with
      config := call.change a.config
      entityAlias := call.alias?.getD a.entityAlias } := by
  rw [run_eq] at done
  split at done
  · exact nomatch done
  · exact (Except.ok.inj done).symm

theorem Applicator.Accumulates.snoc (before : a.Accumulates calls) (done : call.run a = .ok b) :
    b.Accumulates (calls ++ [call]) := by
  obtain rfl := ConfigCall.eq_of_run done
  exact
    { operators := by
        rw [ConfigCall.enabled_change, before.operators, List.filter_filter]
        refine List.filter_congr fun op _ => ?_
        rw [Bool.eq_iff_iff]
        simp [and_comm]
      relationships := by
        rw [ConfigCall.relationships_change, Bool.or_eq_true, before.relationships]
        simp [or_and_right, exists_or]
      entityAlias := by
        rw [getLast?_filterMap_concat, before.entityAlias]
        cases call.alias? <;> rfl
      filterable := by
        rw [ConfigCall.filterable_change, getLast?_filterMap_concat, before.filterable]
        cases call.fields? <;> rfl
      aliases := fun key => by
        rw [ConfigCall.get?_aliases_change, getLast?_filterMap_concat, before.aliases key]
        cases call.meaning? key <;> rfl }

theorem Applicator.accumulates_nil (schema : Schema) (root : String) :
    ({ schema, root } : Applicator).Accumulates [] where
  operators := (List.filter_eq_self.mpr fun op _ => by simp).symm
  relationships := by simp
  entityAlias := rfl
  filterable := rfl
  aliases := fun _ => rfl

theorem Applicator.accumulates_configure {schema : Schema} {root : String}
    (done : ({ schema, root } : Applicator).configure calls = .ok a) :
    a.Accumulates calls ∧ a.schema = schema ∧ a.root = root ∧ a.aliases = .empty := by
  induction calls using List.reverseRecOn generalizing a with
  | nil =>
    obtain rfl := Except.ok.inj done
    exact ⟨accumulates_nil schema root, rfl, rfl, rfl⟩
  | append_singleton calls call ih =>
    rw [configure_append] at done
    obtain ⟨b, first, rest⟩ := Except.bind_eq_ok_iff.mp done
    obtain ⟨before, schemaKept, rootKept, aliasesKept⟩ := ih first
    rw [configure_cons] at rest
    obtain ⟨c, ran, last⟩ := Except.bind_eq_ok_iff.mp rest
    obtain rfl := Except.ok.inj last
    refine ⟨before.snoc ran, ?_⟩
    obtain rfl := ConfigCall.eq_of_run ran
    exact ⟨schemaKept, rootKept, aliasesKept⟩

/-! ### Repeated settings -/

theorem FilterSettings.applyTo_applyTo (given : FilterSettings) (config : FilterConfig) :
    given.applyTo (given.applyTo config) = given.applyTo config := by
  have operators : (config.operators.removeAll given.removedOperators).removeAll
      given.removedOperators = config.operators.removeAll given.removedOperators := by
    refine OperatorSet.ext ?_
    rw [OperatorSet.enabled_removeAll, OperatorSet.enabled_removeAll, List.filter_filter]
    refine List.filter_congr fun op _ => ?_
    rw [Bool.and_self]
  have aliases : (config.aliases.overwrite given.aliases).overwrite given.aliases =
      config.aliases.overwrite given.aliases := by
    refine Dict.ext fun key => ?_
    rw [Dict.get?_overwrite, Dict.get?_overwrite, ← Option.or_assoc, Option.or_self]
  have filterable (fields : Option FilterableFields) :
      fields.getD (fields.getD config.filterable) = fields.getD config.filterable := by
    cases fields <;> rfl
  unfold applyTo
  rw [operators, filterable, Bool.or_assoc, Bool.or_self]
  exact congrArg (FilterConfig.mk _ · _ _) aliases

theorem Applicator.withSettings_withSettings (given : FilterSettings) :
    (a.withSettings given).bind (·.withSettings given) = a.withSettings given := by
  rw [withSettings_eq]
  split
  · rfl
  · rename_i filled
    rw [Except.bind, withSettings_eq, if_neg filled, FilterSettings.applyTo_applyTo]
    cases given.entityAlias <;> rfl

theorem Applicator.configure_settings_cons (given : FilterSettings) :
    a.configure (.settings given :: calls) = (a.withSettings given).bind (·.configure calls) :=
  configure_cons

theorem Applicator.configure_settings_settings (given : FilterSettings) :
    a.configure (.settings given :: .settings given :: calls) =
      a.configure (.settings given :: calls) :=
  calc a.configure (.settings given :: .settings given :: calls)
    _ = (a.withSettings given).bind fun b => b.configure (.settings given :: calls) :=
      a.configure_settings_cons given
    _ = (a.withSettings given).bind fun b => (b.withSettings given).bind (·.configure calls) :=
      congrArg _ (funext fun b => b.configure_settings_cons given)
    _ = ((a.withSettings given).bind (·.withSettings given)).bind (·.configure calls) := by
      cases a.withSettings given <;> rfl
    _ = (a.withSettings given).bind (·.configure calls) := by rw [withSettings_withSettings]
    _ = a.configure (.settings given :: calls) := (a.configure_settings_cons given).symm

end

/-- Calls on a new applicator fail exactly if one of them names the empty alias, and otherwise leave
the configuration that they accumulate. -/
theorem configuration_accumulates (schema : Schema) (root : String) (calls : List ConfigCall) :
    let start : Applicator := { schema, root }
    (∀ error, start.configure calls = .error error ↔
      error = .configuration "Entity alias cannot be empty" ∧
        ∃ call ∈ calls, call.alias? = some "") ∧
    (∀ a, start.configure calls = .ok a →
      a.Accumulates calls ∧ a.schema = schema ∧ a.root = root ∧ a.aliases = .empty) ∧
    (∀ others a b, start.configure calls = .ok a → start.configure others = .ok b →
      (∀ op : Operator, op.token ∈ calls.flatMap ConfigCall.removed ↔
        op.token ∈ others.flatMap ConfigCall.removed) →
      a.config.operators = b.config.operators) ∧
    (∀ names, FilterableFields.ofNames names = .all ↔ "*" ∈ names) ∧
    ∀ given rest,
      start.configure (calls ++ .settings given :: .settings given :: rest) =
        start.configure (calls ++ .settings given :: rest) := by
  intro start
  refine ⟨fun error => Applicator.configure_eq_error_iff,
    fun a => Applicator.accumulates_configure, ?_, ?_, ?_⟩
  · intro others a b done done' named
    have left := (Applicator.accumulates_configure done).1.operators
    have right := (Applicator.accumulates_configure done').1.operators
    refine OperatorSet.ext ((left.trans (List.filter_congr fun op _ => ?_)).trans right.symm)
    simp only [named op]
  · intro names
    unfold FilterableFields.ofNames
    split
    · rename_i star
      exact ⟨fun _ => star, fun _ => rfl⟩
    · rename_i unstarred
      exact ⟨nofun, fun star => absurd star unstarred⟩
  · intro given rest
    rw [Applicator.configure_append, Applicator.configure_append]
    exact congrArg _ (funext fun a => a.configure_settings_settings given)

/-- Tokens that are no operators or come twice, and aliases from three calls. -/
theorem configuration_accumulates_concerts :
    let province : FilterSettings :=
      { relationships := true
        removedOperators := ["like", "LIKE", "gt"]
        aliases := .ofList [("province", "state")]
        filterableFields := some ["state", "*"] }
    let calls : List ConfigCall :=
      [.settings province, .fieldAliases [("place", "city"), ("place", "town"), ("day", "date")],
        .removeOperators ["sort", "between", "gt"], .settings province, .entityAlias "row",
        .filterableFields ["state", "state"]]
    let start : Applicator := { schema := .concerts, root := "performance" }
    ∃ a, start.configure calls = .ok a ∧
      a.config.operators.enabled =
        [.eq, .neq, .gte, .lt, .lte, .within, .notWithin, .isNull, .isNotNull] ∧
      a.config.relationships = true ∧ a.entityAlias = "row" ∧
      a.config.filterable = .ofNames ["state"] ∧
      a.config.aliases.get? "province" = some "state" ∧
      a.config.aliases.get? "place" = some "town" ∧ a.schema = .concerts ∧
      ∃ error, start.configure (calls ++ [.entityAlias ""]) = .error error := by
  intro province calls start
  obtain ⟨a, done⟩ : ∃ a, start.configure calls = .ok a := ⟨_, rfl⟩
  obtain ⟨-, accumulates, -⟩ := configuration_accumulates .concerts "performance" calls
  obtain ⟨accumulated, schema, -, -⟩ := accumulates a done
  obtain ⟨fails, -⟩ :=
    configuration_accumulates .concerts "performance" (calls ++ [.entityAlias ""])
  have failed := fails (.configuration "Entity alias cannot be empty")
  refine ⟨a, done, accumulated.operators.trans (by decide +kernel),
    accumulated.relationships.mpr ⟨.settings province, .head _, rfl⟩, accumulated.entityAlias,
    accumulated.filterable.trans (by decide +kernel),
    (accumulated.aliases "province").trans (by decide +kernel),
    (accumulated.aliases "place").trans (by decide +kernel), schema, _, failed.mpr ⟨rfl, ?_⟩⟩
  exact ⟨.entityAlias "", List.mem_append_right _ (.head _), rfl⟩

end QueryFilter
