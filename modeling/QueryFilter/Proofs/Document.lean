import QueryFilter.Proofs.Scope

/-!
# Document order

All entries of a filter map, whatever their level, are listed as they are written: each before the
entries nested under it, and these before the next. A walk meets those of them to which the keys
around them lead along associations, in this order (`walk_eq_document`).
-/

namespace QueryFilter

/-- An entry and the keys of the entries around it, from the outermost inwards. -/
structure PlacedEntry where
  path : List String
  key : String
  entry : FilterEntry
  deriving DecidableEq, Repr

def PlacedEntry.below (name : String) (placed : PlacedEntry) : PlacedEntry :=
  { placed with path := name :: placed.path }

/-- The entries of all levels in the order in which they are written. -/
def FilterMap.document : FilterMap → List PlacedEntry
  | empty => []
  | text key raw rest => ⟨[], key, .text raw⟩ :: rest.document
  | nested key inner rest =>
    ⟨[], key, .nested inner⟩ :: inner.document.map (.below key) ++ rest.document

/-! ### The document holds every entry -/

namespace FilterMap

theorem HasEntry.mono {filters more : FilterMap} {path : List String} {key : String}
    {entry : FilterEntry} (found : filters.HasEntry path key entry)
    (sub : filters.entries ⊆ more.entries) : more.HasEntry path key entry := by
  cases found with
  | here listed => exact .here (sub listed)
  | inside listed found => exact .inside (sub listed) found

theorem mem_document_here {filters : FilterMap} {key : String} {entry : FilterEntry}
    (listed : (key, entry) ∈ filters.entries) : ⟨[], key, entry⟩ ∈ filters.document := by
  induction filters with
  | empty => exact nomatch listed
  | text k raw rest ih =>
    rcases List.mem_cons.mp listed with same | listed
    · obtain ⟨rfl, rfl⟩ := Prod.mk.inj same
      exact List.mem_cons_self
    · exact List.mem_cons_of_mem _ (ih listed)
  | nested k inner rest _ ih =>
    rcases List.mem_cons.mp listed with same | listed
    · obtain ⟨rfl, rfl⟩ := Prod.mk.inj same
      exact List.mem_cons_self
    · exact List.mem_append_right _ (ih listed)

theorem mem_document_below {filters inner : FilterMap} {name : String} {placed : PlacedEntry}
    (listed : (name, .nested inner) ∈ filters.entries) (member : placed ∈ inner.document) :
    placed.below name ∈ filters.document := by
  induction filters with
  | empty => exact nomatch listed
  | text k raw rest ih =>
    rcases List.mem_cons.mp listed with same | listed
    · exact nomatch (Prod.mk.inj same).2
    · exact List.mem_cons_of_mem _ (ih listed)
  | nested k other rest _ ih =>
    rcases List.mem_cons.mp listed with same | listed
    · obtain ⟨rfl, nested⟩ := Prod.mk.inj same
      obtain rfl := FilterEntry.nested.inj nested
      exact List.mem_append_left _ (List.mem_cons_of_mem _ (List.mem_map_of_mem member))
    · exact List.mem_append_right _ (ih listed)

theorem hasEntry_of_mem_document {filters : FilterMap} {placed : PlacedEntry}
    (member : placed ∈ filters.document) :
    filters.HasEntry placed.path placed.key placed.entry := by
  induction filters generalizing placed with
  | empty => exact nomatch member
  | text key raw rest ih =>
    rcases List.mem_cons.mp member with rfl | member
    · exact .here List.mem_cons_self
    · exact (ih member).mono (List.subset_cons_self ..)
  | nested key inner rest ihInner ihRest =>
    rcases List.mem_append.mp member with member | member
    · rcases List.mem_cons.mp member with rfl | member
      · exact .here List.mem_cons_self
      · obtain ⟨deeper, listed, rfl⟩ := List.mem_map.mp member
        exact .inside List.mem_cons_self (ihInner listed)
    · exact (ihRest member).mono (List.subset_cons_self ..)

theorem mem_document_iff {filters : FilterMap} {placed : PlacedEntry} :
    placed ∈ filters.document ↔ filters.HasEntry placed.path placed.key placed.entry := by
  refine ⟨hasEntry_of_mem_document, fun found => ?_⟩
  obtain ⟨path, key, entry⟩ := placed
  dsimp only at found
  induction found with
  | here listed => exact mem_document_here listed
  | inside listed _ ih => exact mem_document_below listed ih

end FilterMap

/-! ### Contexts -/

/-- The entity that a map filters, and the alias of its table in the query. -/
structure Context where
  entity : Entity
  tableAlias : String

/-- The context of the map under `key`, if the key is an association with a declared target. -/
def Context.enter? (schema : Schema) (config : FilterConfig) (context : Context) (key : String) :
    Option Context :=
  match resolveRelationship config context.entity key with
  | .applied association =>
    (schema.entity? association.target).map fun target => ⟨target, association.name⟩
  | .skipped _ => none

/-- The context that the keys of a path lead to, if each of them leads on. -/
def Context.reach? (schema : Schema) (config : FilterConfig) :
    Context → List String → Option Context
  | context, [] => some context
  | context, key :: path =>
    (context.enter? schema config key).bind fun inner => inner.reach? schema config path

/-- The verdict on an entry in its context. What is nested under it has no part in this. -/
def Verdict.ofEntry (schema : Schema) (config : FilterConfig) (context : Context) (key : String) :
    FilterEntry → Verdict
  | .text raw => .ofText schema config context.entity context.tableAlias key raw
  | .nested _ =>
    match resolveRelationship config context.entity key with
    | .skipped reason => .skipped key reason
    | .applied association =>
      match schema.declared association.target with
      | .error error => .failed error
      | .ok target => .applied (.join (association.join context.tableAlias target.table))

theorem Verdict.step?_nested_eq_some_iff {schema : Schema} {config : FilterConfig}
    {context : Context} {key : String} (inner : FilterMap) {step : QueryStep} :
    (ofEntry schema config context key (.nested inner)).step? = some step ↔
      ∃ association target,
        resolveRelationship config context.entity key = .applied association ∧
        schema.entity? association.target = some target ∧
        step = .join (association.join context.tableAlias target.table) := by
  dsimp only [ofEntry]
  cases resolveRelationship config context.entity key with
  | skipped reason => simp [step?]
  | applied association =>
    dsimp only [Schema.declared]
    cases aimed : schema.entity? association.target with
    | none => simp [step?, aimed]
    | some target => simp [step?, aimed, eq_comm]

/-! ### Entries that fail -/

/-- The entry fails by itself: its value is of the wrong type, or an association has no target. -/
def Context.Fails (schema : Schema) (config : FilterConfig) (context : Context) (key : String)
    (entry : FilterEntry) (error : FilterError) : Prop :=
  match entry with
  | .text raw => resolveFilter schema config context.entity key raw = .error error
  | .nested _ => ∃ association,
    resolveRelationship config context.entity key = .applied association ∧
      schema.declared association.target = .error error

theorem Verdict.ofEntry_eq_failed_iff {schema : Schema} {config : FilterConfig} {context : Context}
    {key : String} {entry : FilterEntry} {error : FilterError} :
    ofEntry schema config context key entry = .failed error ↔
      context.Fails schema config key entry error := by
  cases entry with
  | text raw => exact ofText_eq_failed_iff
  | nested inner =>
    dsimp only [ofEntry, Context.Fails]
    cases resolveRelationship config context.entity key with
    | skipped reason => simp
    | applied association => cases aimed : schema.declared association.target <;> simp [aimed]

theorem Context.Fails.resolutionFailure {schema : Schema} {config : FilterConfig}
    {context : Context} {key : String} {entry : FilterEntry} {error : FilterError}
    (fails : context.Fails schema config key entry error) : ResolutionFailure error := by
  cases entry with
  | text raw => exact failure_of_resolveFilter fails
  | nested inner =>
    obtain ⟨association, -, undeclared⟩ := fails
    exact failure_of_declared undeclared

theorem Context.Fails.applyMap_eq {Q : Type} [QueryTarget Q] {schema : Schema}
    {config : FilterConfig} {context : Context} {key : String} {entry : FilterEntry}
    {error : FilterError} (fails : context.Fails schema config key entry error) (query : Q)
    (aliases : AliasMap) :
    applyMap schema config (.cons key entry .empty) context.entity context.tableAlias query
      aliases = { query, aliases, failure := some error } := by
  cases entry with
  | text raw =>
    dsimp only [Fails] at fails
    simp only [FilterMap.cons, applyMap, applyFilter, fails, Outcome.andThen]
  | nested inner =>
    obtain ⟨association, followed, undeclared⟩ := fails
    simp only [FilterMap.cons, applyMap, followed, undeclared, Outcome.andThen]

/-! ### The walk in document order -/

namespace PlacedEntry

/-- The visit to an entry, if the keys around it lead to it. -/
def visit? (schema : Schema) (config : FilterConfig) (root : Context) (placed : PlacedEntry) :
    Option Visit :=
  (root.reach? schema config placed.path).map fun context =>
    ⟨context.entity.name, .ofEntry schema config context placed.key placed.entry⟩

theorem visit?_below (schema : Schema) (config : FilterConfig) (root : Context) (name : String)
    (placed : PlacedEntry) :
    (placed.below name).visit? schema config root =
      (root.enter? schema config name).bind fun inner => placed.visit? schema config inner := by
  unfold visit? below
  dsimp only
  rw [Context.reach?, Option.map_bind]
  rfl

end PlacedEntry

/-- The entries under `name` are visited as those of a map of its own, if it leads anywhere. -/
theorem visits_below (schema : Schema) (config : FilterConfig) (root : Context) (name : String)
    (document : List PlacedEntry) :
    (document.map (.below name)).filterMap (PlacedEntry.visit? schema config root) =
      match root.enter? schema config name with
      | some inner => document.filterMap (PlacedEntry.visit? schema config inner)
      | none => [] := by
  rw [List.filterMap_map]
  have each : PlacedEntry.visit? schema config root ∘ PlacedEntry.below name = fun placed =>
      (root.enter? schema config name).bind fun inner => placed.visit? schema config inner :=
    funext fun placed => placed.visit?_below schema config root name
  rw [each]
  cases root.enter? schema config name with
  | none => simp
  | some inner => rfl

theorem walk_nested (schema : Schema) (config : FilterConfig) (key : String)
    (inner rest : FilterMap) (context : Context) :
    walk schema config (.nested key inner rest) context.entity context.tableAlias =
      ⟨context.entity.name, .ofEntry schema config context key (.nested inner)⟩ ::
        ((match context.enter? schema config key with
          | some target => walk schema config inner target.entity target.tableAlias
          | none => []) ++
        walk schema config rest context.entity context.tableAlias) := by
  rw [walk, ← List.cons_append]
  congr 1
  unfold Verdict.ofEntry Context.enter?
  cases resolveRelationship config context.entity key with
  | skipped reason => rfl
  | applied association =>
    dsimp only [Schema.declared]
    cases schema.entity? association.target with
    | none => rfl
    | some target => rfl

theorem walk_eq_document (schema : Schema) (config : FilterConfig) (filters : FilterMap)
    (root : Context) :
    walk schema config filters root.entity root.tableAlias =
      filters.document.filterMap (PlacedEntry.visit? schema config root) := by
  induction filters generalizing root with
  | empty => rfl
  | text key raw rest ih =>
    rw [walk, ih, FilterMap.document]
    rfl
  | nested key inner rest ihInner ihRest =>
    have head : PlacedEntry.visit? schema config root ⟨[], key, .nested inner⟩ =
        some ⟨root.entity.name, .ofEntry schema config root key (.nested inner)⟩ := rfl
    rw [walk_nested, ihRest, FilterMap.document, List.filterMap_append,
      List.filterMap_cons_some head, visits_below, List.cons_append]
    cases root.enter? schema config key with
    | none => rfl
    | some target => simp only [ihInner]

section
variable {schema : Schema} {config : FilterConfig} {filters : FilterMap} {visit : Visit}

/-- The visits are those to the entries that the keys around them lead to. -/
theorem mem_walk_iff (root : Context) :
    visit ∈ walk schema config filters root.entity root.tableAlias ↔
      ∃ path key entry context, filters.HasEntry path key entry ∧
        root.reach? schema config path = some context ∧
        visit = ⟨context.entity.name, .ofEntry schema config context key entry⟩ := by
  rw [walk_eq_document, List.mem_filterMap]
  constructor
  · rintro ⟨⟨path, key, entry⟩, listed, visited⟩
    obtain ⟨context, reached, rfl⟩ := Option.map_eq_some_iff.mp visited
    exact ⟨path, key, entry, context, FilterMap.mem_document_iff.mp listed, reached, rfl⟩
  · rintro ⟨path, key, entry, context, found, reached, rfl⟩
    refine ⟨⟨path, key, entry⟩, FilterMap.mem_document_iff.mpr found, ?_⟩
    exact Option.map_eq_some_iff.mpr ⟨context, reached, rfl⟩

theorem failure_of_mem_walk {entity : Entity} {tableAlias : String} {error : FilterError}
    (member : visit ∈ walk schema config filters entity tableAlias)
    (failed : visit.failure? = some error) : ResolutionFailure error := by
  obtain ⟨path, key, entry, context, -, -, rfl⟩ := (mem_walk_iff ⟨entity, tableAlias⟩).mp member
  exact (Verdict.ofEntry_eq_failed_iff.mp (failed_of_failure? failed)).resolutionFailure

theorem filter_of_mem_walk (root : Context) {predicate : Predicate}
    (member : visit ∈ walk schema config filters root.entity root.tableAlias)
    (taken : visit.step? = some (.restrict predicate)) :
    ∃ path key raw context filter, filters.HasEntry path key (.text raw) ∧
      root.reach? schema config path = some context ∧
      resolveFilter schema config context.entity key raw = .ok (.applied filter) ∧
      filter.step context.tableAlias = .restrict predicate := by
  obtain ⟨path, key, entry, context, found, reached, rfl⟩ := (mem_walk_iff root).mp member
  cases entry with
  | text raw =>
    obtain ⟨filter, resolved, step⟩ := Verdict.step?_ofText_eq_some_iff.mp taken
    exact ⟨path, key, raw, context, filter, found, reached, resolved, step⟩
  | nested inner =>
    obtain ⟨association, target, -, -, impossible⟩ :=
      (Verdict.step?_nested_eq_some_iff inner).mp taken
    exact nomatch impossible

end

end QueryFilter
