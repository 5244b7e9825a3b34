import QueryFilter.Proofs.AliasRecords
import QueryFilter.Proofs.TableAliases
import QueryFilter.Schema.Concerts

/-!
# Joined entities

A join records the entity that it starts from, and not the one that it brings in. A joined entity
therefore has an alias only if something is applied in a map on it (`joined_entity_recorded_iff`):
after an empty map it has none.
-/

namespace QueryFilter

/-! ### What joins bring in -/

/-- The context of the map under the entry, if its key and all keys around it lead on. -/
def PlacedEntry.target? (schema : Schema) (config : FilterConfig) (root : Context)
    (placed : PlacedEntry) : Option Context :=
  match placed.entry with
  | .text _ => none
  | .nested _ => root.reach? schema config (placed.path ++ [placed.key])

/-- The entities that are joined and the aliases of their tables, in document order. -/
def FilterMap.targets (schema : Schema) (config : FilterConfig) (root : Context)
    (filters : FilterMap) : List Context :=
  filters.document.filterMap (PlacedEntry.target? schema config root)

section
variable {schema : Schema} {config : FilterConfig} {root target : Context} {filters : FilterMap}

theorem PlacedEntry.join?_emission? (placed : PlacedEntry) :
    (placed.emission? schema config root).bind
        (fun emission => emission.step.join?.map fun join => (join.table, join.tableAlias)) =
      (placed.target? schema config root).map
        fun target => (target.entity.table, target.tableAlias) := by
  obtain ⟨path, key, entry⟩ := placed
  unfold emission? target?
  dsimp only
  cases entry with
  | text raw =>
    refine Option.bind_eq_none_iff.mpr fun emission emitted => ?_
    obtain ⟨context, -, taken⟩ := Option.bind_eq_some_iff.mp emitted
    obtain ⟨step, step?, rfl⟩ := Option.map_eq_some_iff.mp taken
    have noJoin := Verdict.join?_ofText schema config context.entity context.tableAlias key raw
    rw [Verdict.ofEntry] at step?
    rw [step?, Option.bind_some] at noJoin
    rw [noJoin]
    rfl
  | nested inner =>
    rw [Context.reach?_concat]
    cases root.reach? schema config path with
    | none => rfl
    | some context =>
      simp only [Option.bind_some, Verdict.ofEntry, Context.enter?]
      cases resolveRelationship config context.entity key with
      | skipped reason => rfl
      | applied association =>
        dsimp only [Schema.declared]
        cases schema.entity? association.target with
        | none => rfl
        | some entity => rfl

theorem joins_eq_targets :
    (((filters.emissions schema config root).map Emission.step).filterMap QueryStep.join?).map
        (fun join => (join.table, join.tableAlias)) =
      (filters.targets schema config root).map
        fun target => (target.entity.table, target.tableAlias) := by
  rw [List.filterMap_map, List.map_filterMap, FilterMap.emissions, FilterMap.targets,
    List.filterMap_filterMap, List.map_filterMap]
  exact congrArg (List.filterMap · _) (funext PlacedEntry.join?_emission?)

theorem mem_targets_iff :
    target ∈ filters.targets schema config root ↔
      ∃ path key inner, filters.HasEntry path key (.nested inner) ∧
        root.reach? schema config (path ++ [key]) = some target := by
  unfold FilterMap.targets PlacedEntry.target?
  rw [List.mem_filterMap]
  constructor
  · rintro ⟨⟨path, key, entry⟩, listed, reached⟩
    have found := FilterMap.mem_document_iff.mp listed
    cases entry with
    | text raw => exact nomatch reached
    | nested inner => exact ⟨path, key, inner, found, reached⟩
  · rintro ⟨path, key, inner, found, reached⟩
    exact ⟨⟨path, key, .nested inner⟩, FilterMap.mem_document_iff.mpr found, reached⟩

/-! ### Maps with entries that are applied -/

theorem Verdict.exists_step {verdict : Verdict} (sound : verdict.failure? = none)
    (silent : verdict.problem? = none) : ∃ step, verdict.step? = some step := by
  cases verdict with
  | applied step => exact ⟨step, rfl⟩
  | lenient step complaint => exact ⟨step, rfl⟩
  | skipped key reason => exact nomatch silent
  | failed error => exact nomatch sound

theorem exists_emission_of_target
    (sound : ∀ v ∈ walk schema config filters root.entity root.tableAlias,
      v.failure? = none ∧ v.problem? = none)
    (filled : ∀ path key, ¬ filters.HasEntry path key (.nested .empty))
    (member : target ∈ filters.targets schema config root) :
    ∃ emission ∈ filters.emissions schema config root, emission.context = target := by
  obtain ⟨path, key, inner, found, reached⟩ := mem_targets_iff.mp member
  obtain ⟨name, entry, listed⟩ : ∃ name entry, (name, entry) ∈ inner.entries := by
    cases inner with
    | empty => exact absurd found (filled path key)
    | text name raw rest => exact ⟨name, .text raw, List.mem_cons_self⟩
    | nested name deeper rest => exact ⟨name, .nested deeper, List.mem_cons_self⟩
  have below := found.snoc listed
  obtain ⟨noFailure, noProblem⟩ := sound _ ((mem_walk_iff root).mpr
    ⟨_, _, _, _, below, reached, rfl⟩)
  obtain ⟨step, taken⟩ := Verdict.exists_step noFailure noProblem
  exact ⟨⟨target, step⟩, mem_emissions_iff.mpr ⟨_, _, _, below, reached, taken⟩, rfl⟩

end

/-! ### Runs -/

section
variable {a : Applicator} {filters : FilterMap} {root : Entity}

theorem Applicator.contains_after_iff (declared : a.schema.declared a.root = .ok root)
    (sound : (walk a.schema a.config filters root a.entityAlias).findSome? Visit.failure? = none)
    (name : String) :
    (a.after filters).aliases.contains name = true ↔
      a.aliases.contains name = true ∨
        ∃ emission ∈ filters.emissions a.schema a.config ⟨root, a.entityAlias⟩,
          emission.entity = name := by
  rw [aliases_after, Dict.contains, Dict.get?_overwrite, get?_after_fresh declared sound,
    Option.isSome_or, Option.isSome_map, Bool.or_eq_true, List.getLast?_isSome, or_comm]
  simp [Dict.contains, List.filter_eq_nil_iff]

end

/-- The joins of a plan bring in the targets of the filters, which have an alias after the run
exactly if they had one before or something is emitted in a map on them. -/
theorem joined_entity_recorded_iff {a b : Applicator} {filters : FilterMap} {plan : QueryPlan}
    (applied : a.apply filters = (.ok plan, b)) :
    ∃ root, a.schema.entity? a.root = some root ∧
      let context : Context := ⟨root, a.entityAlias⟩
      let targets := filters.targets a.schema a.config context
      let emitted := filters.emissions a.schema a.config context
      plan.joins.map (fun join => (join.table, join.tableAlias)) =
        targets.map (fun target => (target.entity.table, target.tableAlias)) ∧
      (∀ target ∈ targets,
        a.schema.entity? target.entity.name = some target.entity ∧
        (b.aliases.contains target.entity.name = true ↔
          a.aliases.contains target.entity.name = true ∨
            ∃ emission ∈ emitted, emission.entity = target.entity.name)) ∧
      (∀ join ∈ plan.joins, ∃ emission ∈ emitted, emission.step = .join join ∧
        b.aliases.contains emission.entity = true) ∧
      ∀ report, validate a.schema a.root a.config filters = .ok report → report.isValid = true →
        (∀ path key, ¬ filters.HasEntry path key (.nested .empty)) →
        ∀ target ∈ targets, b.aliases.contains target.entity.name = true := by
  obtain ⟨root, declared⟩ : ∃ root, a.schema.declared a.root = .ok root :=
    exists_root_of_apply (congrArg Prod.fst applied)
  obtain rfl : a.after filters = b := congrArg Prod.snd applied
  have result := congrArg Prod.fst applied
  rw [result_apply filters declared] at result
  obtain ⟨sound, rfl⟩ := result_ofVisits_eq_query_iff.mp result
  have found := declared_eq_ok_iff.mp declared
  have recorded := Applicator.contains_after_iff declared sound
  have steps := @steps_walk a.schema a.config ⟨root, a.entityAlias⟩ filters
  refine ⟨root, found, ?_, fun target member => ⟨?_, recorded _⟩, fun join member => ?_,
    fun report validated valid filled target member => ?_⟩
  · rw [QueryPlan.addAll_eq, steps]
    exact joins_eq_targets
  · obtain ⟨path, key, inner, -, reached⟩ := mem_targets_iff.mp member
    obtain ⟨name, -, named⟩ := Context.reachable_of_reach? found reached
    obtain rfl := a.schema.entities_named _ _ named
    exact named
  · rw [steps] at member
    obtain ⟨emission, emitted, step⟩ := List.mem_map.mp
      ((QueryPlan.mem_joins_addAll.mp member).resolve_left List.not_mem_nil)
    exact ⟨emission, emitted, step, (recorded _).mpr (.inr ⟨emission, emitted, rfl⟩)⟩
  · rw [validate_eq_ofVisits a.config filters a.entityAlias declared] at validated
    have clean : ∀ v ∈ walk a.schema a.config filters root a.entityAlias,
        v.failure? = none ∧ v.problem? = none := problems_of_valid validated valid
    obtain ⟨emission, emitted, rfl⟩ : ∃ emission ∈
        filters.emissions a.schema a.config ⟨root, a.entityAlias⟩, emission.context = target :=
      exists_emission_of_target clean filled member
    exact (recorded _).mpr (.inr ⟨emission, emitted, rfl⟩)

theorem joined_entity_recorded_iff_concerts :
    let a : Applicator :=
      { schema := .concerts, root := "performance", config := { relationships := true } }
    let others : FilterMap := .text "state|neq" "Ohio" .empty
    let filters : FilterMap := .nested "artist" (.nested "performances" others .empty) .empty
    let plan : QueryPlan :=
      { table := "performances"
        tableAlias := "entity"
        joins := [⟨"entity", "artists", "artist", "artist_id", "id"⟩,
          ⟨"artist", "performances", "performances", "id", "artist_id"⟩]
        predicates := [⟨⟨"performances", "state"⟩, .neq (.text "Ohio")⟩] }
    let b : Applicator :=
      { a with aliases := .ofList [("artist", "artist"), ("performance", "performances")] }
    a.apply filters = (.ok plan, b) ∧
      ∃ root, a.schema.entity? a.root = some root ∧
        let targets := filters.targets a.schema a.config ⟨root, a.entityAlias⟩
        plan.joins.map (fun join => (join.table, join.tableAlias)) =
          targets.map (fun target => (target.entity.table, target.tableAlias)) ∧
        ∀ target ∈ targets, b.aliases.contains target.entity.name = true := by
  intro a others filters plan b
  have applied : a.apply filters = (.ok plan, b) := by
    refine Prod.ext (by decide +kernel) ?_
    rw [Applicator.snd_apply]
    congr 1
    decide +kernel
  have filled : ∀ path key, ¬ filters.HasEntry path key (.nested .empty) := by
    intro path key found
    have nonempty : ∀ placed ∈ filters.document, placed.entry ≠ .nested .empty := by decide
    have listed : ⟨path, key, .nested .empty⟩ ∈ filters.document :=
      FilterMap.mem_document_iff.mpr found
    exact nonempty _ listed rfl
  obtain ⟨root, declared, joins, -, -, covered⟩ := joined_entity_recorded_iff applied
  exact ⟨applied, root, declared, joins, covered {} (by decide +kernel) rfl filled⟩

/-- The artist is joined for an empty map, and no alias is recorded for it. -/
theorem empty_map_leaves_no_alias :
    let a : Applicator :=
      { schema := .concerts, root := "performance", config := { relationships := true } }
    let filters : FilterMap := .nested "artist" .empty .empty
    let plan : QueryPlan :=
      { table := "performances"
        tableAlias := "entity"
        joins := [⟨"entity", "artists", "artist", "artist_id", "id"⟩] }
    (a.apply filters).1 = .ok plan ∧
      ((a.schema.entity? "performance").bind fun root => root.association? "artist") =
        some ⟨"artist", "artist", .belongsTo, "artist_id", "id"⟩ ∧
      (a.schema.entity? "artist").map Entity.table = some "artists" ∧
      (a.after filters).aliases.contains "artist" = false := by
  decide +kernel

end QueryFilter
