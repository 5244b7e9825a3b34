import QueryFilter.Proofs.Walk
import QueryFilter.Schema.Concerts

/-!
# Composition of applications

Applying one map after another is applying the two as one, and an entry with a map of its own joins
the target of its association and then does what an applicator of its own would do there.
-/

namespace QueryFilter

/-! ### Maps one after another -/

namespace FilterMap

theorem cons_append (key : String) (entry : FilterEntry) (rest other : FilterMap) :
    cons key entry rest ++ other = cons key entry (rest ++ other) := by
  cases entry <;> rfl

theorem append_assoc (first second third : FilterMap) :
    first ++ second ++ third = first ++ (second ++ third) := by
  induction first using cons_induction with
  | empty => rfl
  | cons key entry rest ih => rw [cons_append, cons_append, cons_append, ih]

theorem append_empty (filters : FilterMap) : filters ++ empty = filters := by
  induction filters using cons_induction with
  | empty => rfl
  | cons key entry rest ih => rw [cons_append, ih]

theorem insert_of_not_mem {filters : FilterMap} {key : String} (entry : FilterEntry)
    (absent : key ∉ filters.keys) : filters.insert key entry = filters ++ cons key entry empty := by
  induction filters using cons_induction with
  | empty => rfl
  | cons k e rest ih =>
    rw [keys_cons, List.mem_cons, not_or] at absent
    rw [insert_cons, if_neg (Ne.symm absent.1), ih absent.2, cons_append]

/-- Inserting entries under keys that are not there yet puts them after the others. -/
theorem insertAll_eq_append {filters others : FilterMap} (distinct : others.Distinct)
    (disjoint : ∀ key ∈ others.keys, key ∉ filters.keys) :
    filters.insertAll others.entries = filters ++ others := by
  induction others using cons_induction generalizing filters with
  | empty => exact (append_empty filters).symm
  | cons key entry rest ih =>
    obtain ⟨once, -, distinct⟩ := distinct_cons.mp distinct
    rw [keys_cons] at disjoint
    have absent : key ∉ filters.keys := disjoint key List.mem_cons_self
    have later : ∀ k ∈ rest.keys, k ∉ (filters.insert key entry).keys := by
      intro k member inserted
      rcases mem_keys_insert.mp inserted with rfl | old
      · exact once member
      · exact disjoint k (List.mem_cons_of_mem _ member) old
    calc filters.insertAll (cons key entry rest).entries
      _ = (filters.insert key entry).insertAll rest.entries := by rw [entries_cons]; rfl
      _ = filters.insert key entry ++ rest := ih distinct later
      _ = filters ++ cons key entry rest := by
        rw [insert_of_not_mem entry absent, append_assoc, cons_append, empty_append]

end FilterMap

theorem Outcome.andThen_done {Q : Type} (outcome : Outcome Q) :
    (outcome.andThen fun query aliases => { query, aliases }) = outcome := by
  obtain ⟨query, aliases, failure⟩ := outcome
  cases failure with
  | none => rfl
  | some error => rfl

variable {Q : Type} [QueryTarget Q]

theorem applyMap_append (schema : Schema) (config : FilterConfig) (filters others : FilterMap)
    (entity : Entity) (tableAlias : String) (query : Q) (aliases : AliasMap) :
    applyMap schema config (filters ++ others) entity tableAlias query aliases =
      (applyMap schema config filters entity tableAlias query aliases).andThen
        (applyMap schema config others entity tableAlias) := by
  have second : applyMap (Q := Q) schema config others entity tableAlias =
      Outcome.ofVisits (walk schema config others entity tableAlias) :=
    funext fun q => funext (applyMap_eq_ofVisits schema config others entity tableAlias q)
  rw [applyMap_eq_ofVisits, applyMap_eq_ofVisits, walk_append, Outcome.ofVisits_append, second]

namespace Applicator

theorem applyTo_append (a : Applicator) (query : Q) (filters others : FilterMap) :
    a.applyTo query (filters ++ others) =
      (a.applyTo query filters).andThen fun query aliases =>
        { a with aliases }.applyTo query others := by
  cases declared : a.schema.declared a.root with
  | error error =>
    simp only [applyTo, declared]
    rfl
  | ok root => simp only [applyTo, declared, applyMap_append]

/-! ### Entries with a map of their own -/

/-- The applicator that stands on the target of an association of `source`, which is in the query
under `tableAlias`. It has the same configuration, and remembers where it came from. -/
def follow (a : Applicator) (source : Entity) (tableAlias : String) (association : Association) :
    Applicator :=
  { a with
    root := association.target
    entityAlias := association.name
    aliases := a.aliases.insert source.name tableAlias }

theorem applyMap_nested {a : Applicator} {source target : Entity} {key : String}
    {association : Association}
    (followed : resolveRelationship a.config source key = .applied association)
    (declared : a.schema.declared association.target = .ok target) (inner rest : FilterMap)
    (tableAlias : String) (query : Q) :
    applyMap a.schema a.config (.nested key inner rest) source tableAlias query a.aliases =
      ((a.follow source tableAlias association).applyTo
        (QueryTarget.add query (.join (association.join tableAlias target.table))) inner).andThen
          (applyMap a.schema a.config rest source tableAlias) := by
  have inside : (a.follow source tableAlias association).applyTo
      (QueryTarget.add query (.join (association.join tableAlias target.table))) inner =
      applyMap a.schema a.config inner target association.name
        (QueryTarget.add query (.join (association.join tableAlias target.table)))
        (a.aliases.insert source.name tableAlias) := by
    simp only [applyTo, follow, declared]
  rw [applyMap, followed, inside]
  simp only [declared]

/-- Two maps without a common key applied one after the other come to the same as one map, and a
nested map to its join and what the applicator on the target makes of it. -/
theorem applyTo_composes (a : Applicator) (query : Q) :
    (∀ filters others : FilterMap, others.Distinct → (∀ key ∈ others.keys, key ∉ filters.keys) →
      a.applyTo query (filters.insertAll others.entries) =
        (a.applyTo query filters).andThen fun query aliases =>
          { a with aliases }.applyTo query others) ∧
    (∀ (root target : Entity) (key : String) (association : Association) (inner : FilterMap),
      a.schema.declared a.root = .ok root →
      resolveRelationship a.config root key = .applied association →
      a.schema.declared association.target = .ok target →
      a.applyTo query (.nested key inner .empty) =
        (a.follow root a.entityAlias association).applyTo
          (QueryTarget.add query (.join (association.join a.entityAlias target.table))) inner) ∧
    ∀ (source target : Entity) (tableAlias key : String) (association : Association)
      (inner rest : FilterMap),
      resolveRelationship a.config source key = .applied association →
      a.schema.declared association.target = .ok target →
      applyMap a.schema a.config (.nested key inner rest) source tableAlias query a.aliases =
        ((a.follow source tableAlias association).applyTo
          (QueryTarget.add query (.join (association.join tableAlias target.table))) inner).andThen
            (applyMap a.schema a.config rest source tableAlias) := by
  refine ⟨fun filters others distinct disjoint => ?_,
    fun root target key association inner rooted followed declared => ?_,
    fun source target tableAlias key association inner rest followed declared =>
      applyMap_nested followed declared inner rest tableAlias query⟩
  · rw [FilterMap.insertAll_eq_append distinct disjoint, applyTo_append]
  · have whole : a.applyTo query (.nested key inner .empty) =
        applyMap a.schema a.config (.nested key inner .empty) root a.entityAlias query
          a.aliases := by
      simp only [applyTo, rooted]
    rw [whole, applyMap_nested followed declared]
    exact Outcome.andThen_done _

theorem applyTo_composes_concerts :
    let a : Applicator :=
      { schema := .concerts, root := "performance", config := { relationships := true } }
    let plan : QueryPlan := { table := "performances", tableAlias := "entity" }
    let state : FilterMap := .text "state" "Utah" .empty
    let named : FilterMap := .text "name" "Ada" (.text "id" "x" .empty)
    let artist : FilterMap := .nested "artist" named .empty
    let root := (Schema.concerts.entity? "performance").get (by decide +kernel)
    let link : Association := ⟨"artist", "artist", .belongsTo, "artist_id", "id"⟩
    let joined := plan.add (.join ⟨"entity", "artists", "artist", "artist_id", "id"⟩)
    a.applyTo plan (state.insertAll artist.entries) =
        (a.applyTo plan state).andThen (fun plan aliases =>
          { a with aliases }.applyTo plan artist) ∧
      a.applyTo plan artist = (a.follow root "entity" link).applyTo joined named ∧
      applyMap a.schema a.config (.nested "artist" named state) root "entity" plan a.aliases =
        ((a.follow root "entity" link).applyTo joined named).andThen
          (applyMap a.schema a.config state root "entity") := by
  intro a plan state named artist root link joined
  obtain ⟨both, entry, anywhere⟩ := applyTo_composes a plan
  let target := (Schema.concerts.entity? "artist").get (by decide +kernel)
  have rooted : a.schema.declared a.root = .ok root := by decide +kernel
  have followed : resolveRelationship a.config root "artist" = .applied link := by decide +kernel
  have declared : a.schema.declared link.target = .ok target := by decide +kernel
  exact ⟨both state artist (by simp [artist, named, FilterMap.Distinct, FilterMap.keys,
      FilterMap.entries]) (by decide +kernel),
    entry root target "artist" link named rooted followed declared,
    anywhere root target "entity" "artist" link named state followed declared⟩

end Applicator

end QueryFilter
