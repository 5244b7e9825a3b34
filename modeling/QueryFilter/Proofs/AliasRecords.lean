import Mathlib.Data.List.Induction
import QueryFilter.Proofs.Reachability
import QueryFilter.Proofs.Steps
import QueryFilter.Schema.Concerts

/-!
# Records of aliases

An applicator records the alias of an entity whenever a step is taken in a map on that entity, and
the last record counts. So after a run an entity has the alias of the last step in its context
(`alias_is_last_emission`), and over several runs each one overwrites what was recorded before it.
-/

namespace QueryFilter

/-! ### Overwriting -/

namespace Dict

variable {α : Type}

/-- Takes the entries of `later` over. -/
def overwrite (d later : Dict α) : Dict α := d.insertAll later.entries

theorem get?_insertAll (d : Dict α) (entries : List (String × α)) (key : String) :
    (d.insertAll entries).get? key =
      ((entries.filter fun e => e.1 == key).getLast?.map Prod.snd).or (d.get? key) := by
  induction entries using List.reverseRecOn with
  | nil => rfl
  | append_singleton init last ih =>
    have snoc : d.insertAll (init ++ [last]) = (d.insertAll init).insert last.1 last.2 := by
      rw [insertAll, List.foldl_append]
      rfl
    rw [snoc, get?_insert, List.filter_append]
    by_cases same : key = last.1
    · simp [same]
    · simp [same, ih, Ne.symm same]

theorem getLast?_filter_eq_lookup {entries : List (String × α)}
    (sorted : entries.Pairwise fun a b => a.1 < b.1) (key : String) :
    (entries.filter fun e => e.1 == key).getLast?.map Prod.snd = entries.lookup key := by
  induction entries with
  | nil => rfl
  | cons head rest ih =>
    obtain ⟨k, v⟩ := head
    obtain ⟨above, later⟩ := List.pairwise_cons.mp sorted
    rw [lookup_cons]
    by_cases same : key = k
    · subst same
      have single : (rest.filter fun e => e.1 == key) = [] := by
        refine List.filter_eq_nil_iff.mpr fun e member equal => ?_
        exact String.lt_irrefl key (by simpa [beq_iff_eq.mp equal] using above e member)
      simp [single]
    · rw [List.filter_cons_of_neg (by simpa using Ne.symm same), ih later, if_neg same]

@[simp] theorem get?_overwrite (d later : Dict α) (key : String) :
    (d.overwrite later).get? key = (later.get? key).or (d.get? key) := by
  rw [overwrite, get?_insertAll, getLast?_filter_eq_lookup later.sorted]
  rfl

end Dict

/-! ### Emissions -/

/-- A step and the context of the map with the entry that it is taken for. -/
structure Emission where
  context : Context
  step : QueryStep

namespace Emission

def entity (emission : Emission) : String := emission.context.entity.name

def tableAlias (emission : Emission) : String := emission.context.tableAlias

end Emission

/-- The step of the entry, if the keys around it lead to it and it is neither skipped nor a
failure. -/
def PlacedEntry.emission? (schema : Schema) (config : FilterConfig) (root : Context)
    (placed : PlacedEntry) : Option Emission :=
  (root.reach? schema config placed.path).bind fun context =>
    (Verdict.ofEntry schema config context placed.key placed.entry).step?.map (.mk context)

/-- The steps of all entries with their contexts, in document order. -/
def FilterMap.emissions (schema : Schema) (config : FilterConfig) (root : Context)
    (filters : FilterMap) : List Emission :=
  filters.document.filterMap (PlacedEntry.emission? schema config root)

def Visit.record? (visit : Visit) : Option (String × String) :=
  visit.step?.map fun step => (visit.entity, step.source)

section
variable {schema : Schema} {config : FilterConfig} {root context : Context} {filters : FilterMap}

theorem Verdict.source_of_ofEntry {key : String} {entry : FilterEntry} {step : QueryStep}
    (taken : (ofEntry schema config context key entry).step? = some step) :
    step.source = context.tableAlias := by
  cases entry with
  | text raw =>
    obtain ⟨filter, -, rfl⟩ := step?_ofText_eq_some_iff.mp taken
    exact filter.source_step _
  | nested inner =>
    obtain ⟨association, target, -, -, rfl⟩ := (step?_nested_eq_some_iff inner).mp taken
    rfl

theorem filterMap_walk {β : Type} {f : Visit → Option β} {g : Emission → β}
    (agree : ∀ context key entry,
      f ⟨context.entity.name, .ofEntry schema config context key entry⟩ =
        (Verdict.ofEntry schema config context key entry).step?.map fun step => g ⟨context, step⟩) :
    (walk schema config filters root.entity root.tableAlias).filterMap f =
      (filters.emissions schema config root).map g := by
  rw [walk_eq_document, FilterMap.emissions, List.filterMap_filterMap, List.map_filterMap]
  congr 1
  funext placed
  unfold PlacedEntry.visit? PlacedEntry.emission?
  cases root.reach? schema config placed.path with
  | none => rfl
  | some context => simp [agree, Function.comp_def]

theorem steps_walk :
    (walk schema config filters root.entity root.tableAlias).filterMap Visit.step? =
      (filters.emissions schema config root).map Emission.step :=
  filterMap_walk fun context key entry => by simp [Visit.step?]

theorem records_walk :
    (walk schema config filters root.entity root.tableAlias).filterMap Visit.record? =
      (filters.emissions schema config root).map fun e => (e.entity, e.tableAlias) := by
  refine filterMap_walk fun context key entry => ?_
  unfold Visit.record? Visit.step?
  dsimp only
  refine Option.map_congr fun step taken => ?_
  rw [Verdict.source_of_ofEntry taken]
  rfl

theorem mem_emissions_iff {emission : Emission} :
    emission ∈ filters.emissions schema config root ↔
      ∃ path key entry, filters.HasEntry path key entry ∧
        root.reach? schema config path = some emission.context ∧
        (Verdict.ofEntry schema config emission.context key entry).step? = some emission.step := by
  obtain ⟨context, step⟩ := emission
  unfold FilterMap.emissions PlacedEntry.emission?
  simp only [List.mem_filterMap, Option.bind_eq_some_iff, Option.map_eq_some_iff,
    FilterMap.mem_document_iff, Emission.mk.injEq]
  constructor
  · rintro ⟨⟨path, key, entry⟩, found, _, reached, _, taken, rfl, rfl⟩
    exact ⟨path, key, entry, found, reached, taken⟩
  · rintro ⟨path, key, entry, found, reached, taken⟩
    exact ⟨⟨path, key, entry⟩, found, context, reached, step, taken, rfl, rfl⟩

/-! ### Contexts of emissions -/

theorem Context.reach?_concat (path : List String) (key : String) :
    root.reach? schema config (path ++ [key]) =
      (root.reach? schema config path).bind fun context => context.enter? schema config key := by
  induction path generalizing root with
  | nil => simp [reach?]
  | cons first path ih =>
    rw [List.cons_append, reach?, reach?, Option.bind_assoc]
    exact Option.bind_congr fun inner _ => ih

theorem FilterMap.HasEntry.around {path : List String} {name key : String} {entry : FilterEntry}
    (found : filters.HasEntry (path ++ [name]) key entry) :
    ∃ inner, filters.HasEntry path name (.nested inner) := by
  induction path generalizing filters with
  | nil =>
    obtain _ | ⟨listed, -⟩ := found
    exact ⟨_, .here listed⟩
  | cons first path ih =>
    obtain _ | ⟨listed, deeper⟩ := found
    obtain ⟨inner, outer⟩ := ih deeper
    exact ⟨inner, .inside listed outer⟩

/-- Every context but the first is that of a join, which is emitted for the map itself. -/
theorem joined_of_mem_emissions {emission : Emission}
    (member : emission ∈ filters.emissions schema config root) :
    emission.context = root ∨
      ∃ outer ∈ filters.emissions schema config root, ∃ join, outer.step = .join join ∧
        join.tableAlias = emission.tableAlias ∧ join.table = emission.context.entity.table := by
  obtain ⟨path, key, entry, found, reached, -⟩ := mem_emissions_iff.mp member
  rcases List.eq_nil_or_concat path with rfl | ⟨path, name, rfl⟩
  · exact .inl (Option.some.inj reached).symm
  · rw [List.concat_eq_append] at found reached
    rw [Context.reach?_concat] at reached
    obtain ⟨outer, before, entered⟩ := Option.bind_eq_some_iff.mp reached
    obtain ⟨association, followed, aimed, named⟩ := Context.enter?_eq_some_iff.mp entered
    obtain ⟨inner, around⟩ := found.around
    let join := association.join outer.tableAlias emission.context.entity.table
    have taken : (Verdict.ofEntry schema config outer name (.nested inner)).step? =
        some (.join join) :=
      (Verdict.step?_nested_eq_some_iff inner).mpr ⟨association, _, followed, aimed, rfl⟩
    exact .inr ⟨⟨outer, .join join⟩, mem_emissions_iff.mpr ⟨path, name, _, around, before, taken⟩,
      join, rfl, named, rfl⟩

theorem declared_of_mem_emissions {emission : Emission}
    (declared : schema.entity? root.entity.name = some root.entity)
    (member : emission ∈ filters.emissions schema config root) :
    schema.entity? emission.entity = some emission.context.entity := by
  obtain ⟨path, key, entry, -, reached, -⟩ := mem_emissions_iff.mp member
  obtain ⟨name, -, found⟩ := Context.reachable_of_reach? declared reached
  obtain rfl := schema.entities_named _ _ found
  exact found

end

/-! ### What a run records -/

theorem AliasMap.foldl_record (visits : List Visit) (aliases : AliasMap) :
    visits.foldl record aliases = aliases.insertAll (visits.filterMap Visit.record?) := by
  induction visits generalizing aliases with
  | nil => rfl
  | cons visit rest ih =>
    rw [List.foldl_cons, ih, List.filterMap_cons]
    unfold record Visit.record?
    cases visit.step? with
    | none => rfl
    | some step => rfl

namespace Applicator

/-- The applicator as it was before its first run. -/
def fresh (a : Applicator) : Applicator := { a with aliases := .empty }

/-- The applicator after a run. -/
def after (a : Applicator) (filters : FilterMap) : Applicator :=
  (a.apply filters : Except FilterError QueryPlan × Applicator).2

/-- The records of a run, one for each step in front of the first failure. -/
def records (a : Applicator) (filters : FilterMap) : List (String × String) :=
  match a.schema.declared a.root with
  | .error _ => []
  | .ok root =>
    (reached (walk a.schema a.config filters root a.entityAlias)).filterMap Visit.record?

/-- Whatever query a run makes, it changes nothing but the aliases. -/
theorem snd_apply {Q : Type} [QueryTarget Q] (a : Applicator) (filters : FilterMap) :
    (a.apply filters : Except FilterError Q × Applicator).2 =
      { a with aliases := a.aliases.insertAll (a.records filters) } := by
  unfold apply records
  cases declared : a.schema.declared a.root with
  | error error => rfl
  | ok root =>
    simp only [applyTo_eq_ofVisits declared, Outcome.ofVisits, AliasMap.foldl_record]

theorem snd_apply_eq_after {Q : Type} [QueryTarget Q] (a : Applicator) (filters : FilterMap) :
    (a.apply filters : Except FilterError Q × Applicator).2 = a.after filters := by
  rw [after, snd_apply, snd_apply]

theorem aliases_after (a : Applicator) (filters : FilterMap) :
    (a.after filters).aliases = a.aliases.overwrite (a.fresh.after filters).aliases := by
  have again : a.fresh.records filters = a.records filters := rfl
  unfold after
  rw [snd_apply, snd_apply, again]
  refine Dict.ext fun name => ?_
  simp [Dict.get?_insertAll, fresh]

theorem aliases_foldl_after (a : Applicator) (runs : List FilterMap) :
    (runs.foldl after a).aliases =
      (runs.map fun run => (a.fresh.after run).aliases).foldl Dict.overwrite a.aliases := by
  induction runs generalizing a with
  | nil => rfl
  | cons run rest ih =>
    have unchanged : (a.after run).fresh = a.fresh := by
      unfold after
      rw [snd_apply]
      rfl
    rw [List.foldl_cons, ih, List.map_cons, List.foldl_cons, unchanged, aliases_after]

end Applicator

/-! ### The alias of an entity -/

section
variable {a : Applicator} {filters : FilterMap} {root : Entity}

theorem Applicator.records_eq (declared : a.schema.declared a.root = .ok root)
    (sound : (walk a.schema a.config filters root a.entityAlias).findSome? Visit.failure? = none) :
    a.records filters = (filters.emissions a.schema a.config ⟨root, a.entityAlias⟩).map
      fun e => (e.entity, e.tableAlias) := by
  simp only [Applicator.records, declared, reached_eq_self sound]
  exact @records_walk _ _ ⟨root, a.entityAlias⟩ _

theorem Applicator.apply_eq {P : Type} [QueryTarget P]
    (declared : a.schema.declared a.root = .ok root)
    (sound : (walk a.schema a.config filters root a.entityAlias).findSome? Visit.failure? = none) :
    (a.apply filters : Except FilterError P × Applicator) =
      (.ok (QueryTarget.addAll (QueryTarget.selectFrom root.table a.entityAlias)
        ((filters.emissions a.schema a.config ⟨root, a.entityAlias⟩).map Emission.step)),
        a.after filters) := by
  refine Prod.ext ?_ ?_
  · refine (result_apply filters declared).trans (result_ofVisits_eq_query_iff.mpr ⟨sound, ?_⟩)
    exact congrArg _ steps_walk.symm
  · exact a.snd_apply_eq_after filters

theorem get?_after_fresh (declared : a.schema.declared a.root = .ok root)
    (sound : (walk a.schema a.config filters root a.entityAlias).findSome? Visit.failure? = none)
    (name : String) :
    (a.fresh.after filters).aliases.get? name =
      ((filters.emissions a.schema a.config ⟨root, a.entityAlias⟩).filter
        fun e => e.entity == name).getLast?.map Emission.tableAlias := by
  rw [Applicator.after, Applicator.snd_apply, Applicator.records_eq (a := a.fresh) declared sound]
  simp only [Applicator.fresh, Dict.get?_insertAll, List.filter_map, List.getLast?_map,
    Option.map_map, Dict.get?_empty, Option.or_none]
  rfl

end

/-- An entity has the alias of the last context in which a step was emitted for it, and each run
overwrites the aliases of the runs before. -/
theorem alias_is_last_emission (a : Applicator) :
    (∀ (P : Type) [QueryTarget P] (filters : FilterMap),
      (a.apply filters : Except FilterError P × Applicator).2 = a.after filters) ∧
    (∀ (Q : Type) [QueryTarget Q] (filters : FilterMap) (query : Q),
      (a.fresh.apply filters).1 = .ok query →
      ∃ root, a.schema.entity? a.root = some root ∧
        let emitted := filters.emissions a.schema a.config ⟨root, a.entityAlias⟩
        let steps := emitted.map Emission.step
        let plan : QueryPlan :=
          QueryTarget.addAll (QueryTarget.selectFrom root.table a.entityAlias) steps
        let aliases := (a.fresh.after filters).aliases
        (∀ (P : Type) [QueryTarget P], (a.fresh.apply filters : Except FilterError P × Applicator) =
          (.ok (QueryTarget.addAll (QueryTarget.selectFrom root.table a.entityAlias) steps),
            a.fresh.after filters)) ∧
        (∀ name, aliases.contains name = true ↔ ∃ e ∈ emitted, e.entity = name) ∧
        (∀ name, aliases.get? name =
          (emitted.filter fun e => e.entity == name).getLast?.map Emission.tableAlias) ∧
        ∀ name tableAlias, aliases.get? name = some tableAlias →
          ∃ entity, a.schema.entity? name = some entity ∧
            (name = a.root ∧ tableAlias = a.entityAlias ∨
              ∃ join ∈ plan.joins, join.tableAlias = tableAlias ∧ join.table = entity.table)) ∧
    ∀ runs : List FilterMap, (runs.foldl Applicator.after a).aliases =
      (runs.map fun run => (a.fresh.after run).aliases).foldl Dict.overwrite a.aliases := by
  refine ⟨fun P _ => a.snd_apply_eq_after, fun Q _ filters query applied => ?_,
    a.aliases_foldl_after⟩
  obtain ⟨root, declared⟩ : ∃ root, a.schema.declared a.root = .ok root :=
    exists_root_of_apply (a := a.fresh) applied
  rw [result_apply (a := a.fresh) filters declared] at applied
  obtain ⟨sound, -⟩ := result_ofVisits_eq_query_iff.mp applied
  have found := declared_eq_ok_iff.mp declared
  obtain named : root.name = a.root := a.schema.entities_named _ _ found
  have aliases := get?_after_fresh declared sound
  refine ⟨root, found, fun P _ => Applicator.apply_eq (a := a.fresh) declared sound,
    fun name => ?_, aliases, fun name tableAlias recorded => ?_⟩
  · rw [Dict.contains, aliases, Option.isSome_map, List.getLast?_isSome]
    simp [List.filter_eq_nil_iff]
  · rw [aliases] at recorded
    obtain ⟨last, counted, rfl⟩ := Option.map_eq_some_iff.mp recorded
    obtain ⟨member, same⟩ := List.mem_filter.mp (List.mem_of_getLast? counted)
    obtain rfl := beq_iff_eq.mp same
    refine ⟨last.context.entity, declared_of_mem_emissions (named ▸ found) member, ?_⟩
    rcases joined_of_mem_emissions member with context | ⟨outer, emitted, join, step, joined⟩
    · exact .inl ⟨by rw [Emission.entity, context, named], congrArg Context.tableAlias context⟩
    · have listed := List.mem_map_of_mem (f := Emission.step) emitted
      rw [step] at listed
      exact .inr ⟨join, QueryPlan.mem_joins_addAll.mpr (.inr listed), joined⟩

/-- The performances of the artist of a performance are the last performances that are filtered. In
the next run the root is. -/
theorem alias_is_last_emission_cycle :
    let a : Applicator :=
      { schema := .concerts, root := "performance", config := { relationships := true } }
    let others : FilterMap := .nested "performances" (.text "state" "Ohio" .empty) .empty
    let cycle : FilterMap := .text "state" "Utah" (.nested "artist" others .empty)
    let plan : QueryPlan :=
      { table := "performances"
        tableAlias := "entity"
        joins := [⟨"entity", "artists", "artist", "artist_id", "id"⟩,
          ⟨"artist", "performances", "performances", "id", "artist_id"⟩]
        predicates := [⟨⟨"entity", "state"⟩, .eq (.text "Utah")⟩,
          ⟨⟨"performances", "state"⟩, .eq (.text "Ohio")⟩] }
    (a.fresh.apply cycle).1 = .ok plan ∧
      (a.fresh.after cycle).aliases.get? "performance" = some "performances" ∧
      (∃ entity, a.schema.entity? "performance" = some entity ∧
        ∃ join ∈ plan.joins, join.tableAlias = "performances" ∧ join.table = entity.table) ∧
      ([cycle, .text "state" "Utah" .empty].foldl Applicator.after a).aliases =
        .ofList [("artist", "artist"), ("performance", "entity")] := by
  intro a others cycle plan
  have applied : (a.fresh.apply cycle).1 = .ok plan := by decide +kernel
  have recorded : (a.fresh.after cycle).aliases.get? "performance" = some "performances" := by
    decide +kernel
  obtain ⟨-, run, runs⟩ := alias_is_last_emission a
  obtain ⟨root, -, same, -, -, placed⟩ := run QueryPlan cycle plan applied
  have made := congrArg Prod.fst (same QueryPlan)
  rw [applied] at made
  obtain ⟨entity, declared, place⟩ := placed _ _ recorded
  have joined := place.resolve_left fun rooted => absurd rooted.2 (by decide)
  rw [← Except.ok.inj made] at joined
  exact ⟨applied, recorded, ⟨entity, declared, joined⟩, (runs _).trans (by decide +kernel)⟩

end QueryFilter
