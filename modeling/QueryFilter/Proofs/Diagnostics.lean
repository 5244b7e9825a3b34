import QueryFilter.Proofs.Agreement
import QueryFilter.Proofs.Document
import QueryFilter.Proofs.Steps
import QueryFilter.Schema.Concerts

/-!
# Complete and exclusive diagnostics

An entry that validation comes to is either applied as it is or reported once, and the report holds
nothing else. What is applied and what is reported therefore add up to the entries met, where an
entry that is applied although its value does not suit it counts on both sides.
-/

namespace QueryFilter

/-! ### Entries in their context -/

namespace Context

/-- Whether the entry joins an association, or is a filter whose value suits its operator. -/
def isStrict (schema : Schema) (config : FilterConfig) (context : Context) (key : String) :
    FilterEntry → Bool
  | .nested _ => (context.enter? schema config key).isSome
  | .text raw =>
    match resolveFilter schema config context.entity key raw with
    | .ok (.applied filter) => !filter.lenient
    | .ok (.skipped _) | .error _ => false

/-- Whether the entry is a filter that is applied although its value does not suit its operator. -/
def isLenient (schema : Schema) (config : FilterConfig) (context : Context) (key : String) :
    FilterEntry → Bool
  | .nested _ => false
  | .text raw =>
    match resolveFilter schema config context.entity key raw with
    | .ok (.applied filter) => filter.lenient
    | .ok (.skipped _) | .error _ => false

end Context

namespace PlacedEntry

variable (schema : Schema) (config : FilterConfig) (root : Context) (placed : PlacedEntry)

/-- Whether every key around the entry is an association that leads on. -/
def isVisited : Bool := (root.reach? schema config placed.path).isSome

def isStrict : Bool :=
  (root.reach? schema config placed.path).any fun context =>
    context.isStrict schema config placed.key placed.entry

def isLenient : Bool :=
  (root.reach? schema config placed.path).any fun context =>
    context.isLenient schema config placed.key placed.entry

/-- What is reported about the entry. -/
def problem? : Option Problem := (placed.visit? schema config root).bind Visit.problem?

end PlacedEntry

/-! ### Verdicts -/

namespace Verdict

def isStrict : Verdict → Bool
  | applied _ => true
  | lenient .. | skipped .. | failed _ => false

def isLenient : Verdict → Bool
  | lenient .. => true
  | applied _ | skipped .. | failed _ => false

theorem flags_ofEntry (schema : Schema) (config : FilterConfig) (context : Context)
    (key : String) (entry : FilterEntry) :
    let verdict := ofEntry schema config context key entry
    verdict.isStrict = context.isStrict schema config key entry ∧
      verdict.isLenient = context.isLenient schema config key entry := by
  cases entry with
  | text raw =>
    dsimp only [ofEntry, ofText, Context.isStrict, Context.isLenient]
    cases resolveFilter schema config context.entity key raw with
    | error error => exact ⟨rfl, rfl⟩
    | ok resolution =>
      cases resolution with
      | skipped reason => exact ⟨rfl, rfl⟩
      | applied filter =>
        dsimp only
        cases filter.lenient <;> exact ⟨rfl, rfl⟩
  | nested inner =>
    dsimp only [ofEntry, Context.isStrict, Context.isLenient, Context.enter?, Schema.declared]
    cases resolveRelationship config context.entity key with
    | skipped reason => exact ⟨rfl, rfl⟩
    | applied association =>
      dsimp only
      cases schema.entity? association.target with
      | none => exact ⟨rfl, rfl⟩
      | some target => exact ⟨rfl, rfl⟩

theorem isSome_problem? {verdict : Verdict} (sound : verdict.fault? = none) :
    verdict.problem?.isSome = !verdict.isStrict := by
  cases verdict with
  | applied step => rfl
  | lenient step complaint => rfl
  | skipped key reason => rfl
  | failed error =>
    -- An error that is no fault of the schema is a value of the wrong type.
    have reported := Option.filter_eq_none_iff.mp sound error rfl
    cases told : error.problem? with
    | none => simp [told] at reported
    | some problem => simp [problem?, isStrict, told]

theorem step_add_problem {verdict : Verdict} (sound : verdict.failure? = none) :
    (if verdict.step?.isSome then 1 else 0) + (if verdict.problem?.isSome then 1 else 0) =
      1 + if verdict.isLenient then 1 else 0 := by
  cases verdict with
  | applied step => rfl
  | lenient step complaint => rfl
  | skipped key reason => rfl
  | failed error => exact nomatch sound

end Verdict

/-! ### Visits -/

theorem length_problems_add_strict {visits : List Visit}
    (sound : visits.findSome? Visit.fault? = none) :
    (visits.filterMap Visit.problem?).length + visits.countP (fun v => v.verdict.isStrict) =
      visits.length := by
  have reported : visits.countP (fun v => v.problem?.isSome) =
      visits.countP fun v => !v.verdict.isStrict :=
    List.countP_congr fun v member => by
      rw [Visit.problem?, Verdict.isSome_problem? (List.findSome?_eq_none_iff.mp sound v member)]
  rw [List.length_filterMap_eq_countP, reported,
    List.length_eq_countP_add_countP (fun v => v.verdict.isStrict), Nat.add_comm]
  simp

theorem length_steps_add_problems {visits : List Visit}
    (sound : ∀ v ∈ visits, v.failure? = none) :
    (visits.filterMap Visit.step?).length + (visits.filterMap Visit.problem?).length =
      visits.length + visits.countP fun v => v.verdict.isLenient := by
  rw [List.length_filterMap_eq_countP, List.length_filterMap_eq_countP]
  induction visits with
  | nil => rfl
  | cons visit rest ih =>
    have later := ih fun v member => sound v (List.mem_cons_of_mem _ member)
    have first := Verdict.step_add_problem (sound visit List.mem_cons_self)
    simp only [List.countP_cons, List.length_cons, Visit.step?, Visit.problem?] at later first ⊢
    omega

/-! ### Walks -/

section
variable (schema : Schema) (config : FilterConfig) (filters : FilterMap) (root : Context)

theorem length_walk :
    (walk schema config filters root.entity root.tableAlias).length =
      filters.document.countP (PlacedEntry.isVisited schema config root) := by
  rw [walk_eq_document, List.length_filterMap_eq_countP]
  simp only [PlacedEntry.visit?, Option.isSome_map]
  rfl

theorem countP_walk (flag : Verdict → Bool) :
    (walk schema config filters root.entity root.tableAlias).countP (fun v => flag v.verdict) =
      filters.document.countP fun placed =>
        (root.reach? schema config placed.path).any fun context =>
          flag (.ofEntry schema config context placed.key placed.entry) := by
  rw [walk_eq_document, List.countP_filterMap]
  refine List.countP_congr fun placed _ => ?_
  unfold PlacedEntry.visit?
  cases root.reach? schema config placed.path with
  | none => exact Iff.rfl
  | some context => exact Iff.rfl

theorem countP_strict_walk :
    (walk schema config filters root.entity root.tableAlias).countP (fun v => v.verdict.isStrict) =
      filters.document.countP (PlacedEntry.isStrict schema config root) := by
  rw [countP_walk]
  simp only [(Verdict.flags_ofEntry ..).1]
  rfl

theorem countP_lenient_walk :
    (walk schema config filters root.entity root.tableAlias).countP (fun v => v.verdict.isLenient) =
      filters.document.countP (PlacedEntry.isLenient schema config root) := by
  rw [countP_walk]
  simp only [(Verdict.flags_ofEntry ..).2]
  rfl

theorem problems_walk :
    (walk schema config filters root.entity root.tableAlias).filterMap Visit.problem? =
      filters.document.filterMap (PlacedEntry.problem? schema config root) := by
  rw [walk_eq_document, List.filterMap_filterMap]
  rfl

end

theorem problem?_of_not_visited {schema : Schema} {config : FilterConfig} {root : Context}
    {placed : PlacedEntry} (unmet : placed.isVisited schema config root = false) :
    placed.problem? schema config root = none := by
  have nowhere := Option.not_isSome_iff_eq_none.mp (Bool.eq_false_iff.mp unmet)
  rw [PlacedEntry.problem?, PlacedEntry.visit?, nowhere]
  rfl

/-- A visited entry without a fault is applied as it is or reported, and never both. -/
theorem strict_or_reported {schema : Schema} {config : FilterConfig} {root : Context}
    {placed : PlacedEntry} (visited : placed.isVisited schema config root = true)
    (sound : ∀ v, placed.visit? schema config root = some v → v.fault? = none) :
    (placed.isStrict schema config root = true ∧ placed.problem? schema config root = none) ∨
      (placed.isStrict schema config root = false ∧
        ∃ problem, placed.problem? schema config root = some problem) := by
  obtain ⟨context, reached⟩ := Option.isSome_iff_exists.mp visited
  have visit : placed.visit? schema config root =
      some ⟨context.entity.name, .ofEntry schema config context placed.key placed.entry⟩ := by
    rw [PlacedEntry.visit?, reached, Option.map_some]
  have problem : placed.problem? schema config root =
      (Verdict.ofEntry schema config context placed.key placed.entry).problem? := by
    rw [PlacedEntry.problem?, visit, Option.bind_some, Visit.problem?]
  have flag : placed.isStrict schema config root =
      (Verdict.ofEntry schema config context placed.key placed.entry).isStrict := by
    rw [PlacedEntry.isStrict, reached, Option.any_some, (Verdict.flags_ofEntry ..).1]
  have reported := Verdict.isSome_problem? (sound _ visit)
  rw [← problem, ← flag] at reported
  cases strict : placed.isStrict schema config root with
  | true =>
    rw [strict] at reported
    exact .inl ⟨rfl, by simpa using reported⟩
  | false =>
    rw [strict] at reported
    exact .inr ⟨rfl, Option.isSome_iff_exists.mp reported⟩

/-! ### Reports and plans -/

section
variable {a : Applicator} {filters : FilterMap} {root : Entity}

theorem report_eq_of_validate {report : Report} (declared : a.schema.declared a.root = .ok root)
    (validated : validate a.schema a.root a.config filters = .ok report) :
    (walk a.schema a.config filters root a.entityAlias).findSome? Visit.fault? = none ∧
      report = Report.addAll {} (filters.document.filterMap
        (PlacedEntry.problem? a.schema a.config ⟨root, a.entityAlias⟩)) := by
  rw [validate_eq_ofVisits a.config filters a.entityAlias declared, Report.ofVisits_eq_ok_iff,
    problems_walk a.schema a.config filters ⟨root, a.entityAlias⟩] at validated
  exact validated

theorem size_plan_add_problems {plan : QueryPlan} (declared : a.schema.declared a.root = .ok root)
    (applied : (a.apply filters).1 = .ok plan) :
    let context : Context := ⟨root, a.entityAlias⟩
    plan.joins.length + plan.predicates.length + plan.orderBy.length +
        (filters.document.filterMap (PlacedEntry.problem? a.schema a.config context)).length =
      filters.document.countP (PlacedEntry.isVisited a.schema a.config context) +
        filters.document.countP (PlacedEntry.isLenient a.schema a.config context) := by
  intro context
  rw [result_apply filters declared] at applied
  obtain ⟨sound, rfl⟩ := result_ofVisits_eq_query_iff.mp applied
  -- Nothing fails, so every step of the walk is in the plan.
  have counted := length_steps_add_problems (List.findSome?_eq_none_iff.mp sound)
  have size := QueryPlan.size_addAll (QueryTarget.selectFrom root.table a.entityAlias)
    ((walk a.schema a.config filters root a.entityAlias).filterMap Visit.step?)
  rw [problems_walk a.schema a.config filters context,
    length_walk a.schema a.config filters context,
    countP_lenient_walk a.schema a.config filters context] at counted
  dsimp only at size
  rw [size, ← counted]
  simp [QueryTarget.selectFrom]

end

/-- Every visited entry is applied as it is or reported as one problem, and steps and problems add
up to the visited entries and, once more, the lenient ones. -/
theorem report_accounts_for_visited {a : Applicator} {filters : FilterMap} {report : Report}
    (validated : validate a.schema a.root a.config filters = .ok report) :
    ∃ root, a.schema.entity? a.root = some root ∧
      let context : Context := ⟨root, a.entityAlias⟩
      let visited := PlacedEntry.isVisited a.schema a.config context
      let strict := PlacedEntry.isStrict a.schema a.config context
      let lenient := PlacedEntry.isLenient a.schema a.config context
      let problem? := PlacedEntry.problem? a.schema a.config context
      (∀ placed : PlacedEntry, filters.HasEntry placed.path placed.key placed.entry →
        (visited placed = true →
          (strict placed = true ∧ problem? placed = none) ∨
            (strict placed = false ∧ ∃ problem, problem? placed = some problem)) ∧
        (visited placed = false → problem? placed = none)) ∧
      report =
        { unavailableFields := filters.document.filterMap fun p => (problem? p).bind Problem.field?
          unavailableJoins := filters.document.filterMap fun p => (problem? p).bind Problem.join?
          unavailableOperators :=
            filters.document.filterMap fun p => (problem? p).bind Problem.operator?
          invalidValues := filters.document.filterMap fun p => (problem? p).bind Problem.value?
          invalidTypedValues :=
            filters.document.filterMap fun p => (problem? p).bind Problem.typedValue? } ∧
      report.size + filters.document.countP strict = filters.document.countP visited ∧
      ∀ plan : QueryPlan, (a.apply filters).1 = .ok plan →
        plan.joins.length + plan.predicates.length + plan.orderBy.length + report.size =
          filters.document.countP visited + filters.document.countP lenient := by
  cases declared : a.schema.declared a.root with
  | error error => simp [validate, declared, Except.bind] at validated
  | ok root =>
    obtain ⟨noFault, rfl⟩ := report_eq_of_validate declared validated
    refine ⟨root, declared_eq_ok_iff.mp declared, ?_⟩
    intro context visited strict lenient problem?
    have size : (Report.addAll {} (filters.document.filterMap problem?)).size =
        (filters.document.filterMap problem?).length :=
      (Report.size_addAll ..).trans (Nat.zero_add _)
    refine ⟨fun placed found => ⟨fun met => ?_, fun unmet => ?_⟩, ?_, ?_, fun plan applied => ?_⟩
    · rw [walk_eq_document a.schema a.config filters context] at noFault
      have listed := FilterMap.mem_document_iff.mpr found
      exact strict_or_reported met fun v visit =>
        List.findSome?_eq_none_iff.mp noFault v (List.mem_filterMap.mpr ⟨placed, listed, visit⟩)
    · exact problem?_of_not_visited unmet
    · rw [Report.addAll_eq]
      simp only [List.nil_append, List.filterMap_filterMap]
      rfl
    · have counted := length_problems_add_strict noFault
      rw [problems_walk a.schema a.config filters context,
        length_walk a.schema a.config filters context,
        countP_strict_walk a.schema a.config filters context] at counted
      rw [size]
      exact counted
    · rw [size]
      exact size_plan_add_problems declared applied

theorem report_accounts_for_visited_concerts :
    let a : Applicator :=
      { schema := .concerts, root := "performance", config := { relationships := true } }
    let artist : FilterMap := .text "id" "7" (.nested "label" (.text "id" "1" .empty) .empty)
    let filters : FilterMap := .text "state|in" "Utah" (.text "venue" "Morrison"
      (.nested "artist" artist (.nested "previous" .empty (.text "day|sort" "asc" .empty))))
    let report : Report :=
      { unavailableFields := ["venue"]
        unavailableJoins := ["label"]
        invalidValues := [⟨"in", "Utah"⟩] }
    validate a.schema a.root a.config filters = .ok report ∧
      ∃ root, a.schema.entity? a.root = some root ∧
        let context : Context := ⟨root, a.entityAlias⟩
        report.size + filters.document.countP (PlacedEntry.isStrict a.schema a.config context) =
          filters.document.countP (PlacedEntry.isVisited a.schema a.config context) ∧
        2 + 2 + 1 + report.size =
          filters.document.countP (PlacedEntry.isVisited a.schema a.config context) +
            filters.document.countP (PlacedEntry.isLenient a.schema a.config context) := by
  intro a artist filters report
  let plan : QueryPlan :=
    { table := "performances"
      tableAlias := "entity"
      joins := [⟨"entity", "artists", "artist", "artist_id", "id"⟩,
        ⟨"entity", "performances", "previous", "previous_id", "id"⟩]
      predicates := [⟨⟨"entity", "state"⟩, .within [.text "Utah"]⟩,
        ⟨⟨"artist", "id"⟩, .eq (.int 7)⟩]
      orderBy := [(⟨"entity", "day"⟩, .asc)] }
  have validated : validate a.schema a.root a.config filters = .ok report := by decide +kernel
  have applied : (a.apply filters).1 = .ok plan := by decide +kernel
  obtain ⟨root, declared, -, -, strict, sum⟩ := report_accounts_for_visited validated
  exact ⟨validated, root, declared, strict, sum plan applied⟩

end QueryFilter
