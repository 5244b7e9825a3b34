import QueryFilter.Proofs.Agreement
import QueryFilter.Proofs.Document
import QueryFilter.Proofs.OperatorFit
import QueryFilter.Proofs.ScalarText
import QueryFilter.Schema.Concerts

/-!
# Lenient values

A value is taken although it does not suit its operator exactly where the comparison that it gives
is degenerate: membership in a list of one item, a comparison with the empty text, or a pattern of
nothing but wildcards (`lenient_iff_degenerate`). A plan for filters without problems therefore has
no such comparison.
-/

namespace QueryFilter

open FilterValue (Reads parts)

/-- Membership in a list of one item or absence from it, a comparison with the empty text, or the
pattern of a blank value. -/
def Comparison.isDegenerate : Comparison → Bool
  | .within values | .notWithin values => values.length == 1
  | .eq value | .neq value | .gt value | .gte value | .lt value | .lte value => value == .text ""
  | .like pattern => pattern == "%%"
  | .between .. | .isNull | .isNotNull => false

def Instruction.isDegenerate : Instruction → Bool
  | .restrict comparison => comparison.isDegenerate
  | .order _ => false

/-! ### Values -/

theorem Scalar.eq_empty_iff_of_ofText? {fieldType : FieldType} {s : List Char} {value : Scalar}
    (read : Scalar.ofText? fieldType s = some value) : value = .text "" ↔ s = [] := by
  constructor
  · rintro rfl
    exact (Scalar.toList_of_ofText?_eq_text read).symm
  · rintro rfl
    cases fieldType with
    | string | other => exact (Option.some.inj read).symm
    | integer | bigInteger | float | boolean | date | dateTime | uuid => exact nomatch read

theorem FilterValue.Reads.empty_mem_iff {fieldType : FieldType} {pieces : List (List Char)}
    {values : List Scalar} (reads : Reads fieldType pieces values) :
    .text "" ∈ values ↔ [] ∈ pieces := by
  induction reads with
  | nil => simp
  | cons read _ ih =>
    rw [List.mem_cons, List.mem_cons, ih, eq_comm, Scalar.eq_empty_iff_of_ofText? read, eq_comm]

section
variable {fieldType : FieldType} {s : List Char}

theorem isEmpty_of_single {value : Scalar} (trimmed : Text.trim s = s) (single : ',' ∉ s)
    (read : Reads fieldType (parts s) [value]) : s.isEmpty = (value == .text "") := by
  rw [FilterValue.parts_of_not_mem single, trimmed] at read
  obtain ⟨first, -⟩ := List.forall₂_cons.mp read
  rw [Bool.eq_iff_iff, List.isEmpty_iff, beq_iff_eq]
  exact (Scalar.eq_empty_iff_of_ofText? first).symm

theorem length_eq_one_iff {values : List Scalar} (read : Reads fieldType (parts s) values) :
    (values.length == 1) = !s.contains ',' := by
  have count := read.length_eq
  rw [FilterValue.length_parts] at count
  rw [Bool.eq_iff_iff, beq_iff_eq, Bool.not_eq_true', List.contains_eq_mem, decide_eq_false_iff_not,
    ← List.count_eq_zero]
  omega

theorem isEmpty_of_several {values : List Scalar} (several : ',' ∈ s)
    (read : Reads fieldType (parts s) values) : s.isEmpty = (values.length == 1) := by
  have nonempty : s ≠ [] := List.ne_nil_of_mem several
  rw [length_eq_one_iff read, List.contains_iff_mem.mpr several]
  simpa using nonempty

theorem isEmpty_of_pattern : s.isEmpty = (String.ofList ('%' :: s ++ ['%']) == "%%") := by
  rw [Bool.eq_iff_iff, List.isEmpty_iff, beq_iff_eq, ← String.toList_inj, String.toList_ofList]
  cases s <;> simp

end

theorem isLenient_of_suits {fieldType : FieldType} {raw : String} {op : Operator}
    {instruction : Instruction} (suits : instruction.Suits fieldType (Text.trim raw.toList) op) :
    isLenient op raw = instruction.isDegenerate := by
  have trimmed := Text.trim_trim raw.toList
  unfold isLenient
  generalize Text.trim raw.toList = s at suits trimmed
  unfold Instruction.Suits at suits
  split at suits
  · rfl
  · rfl
  · rfl
  · rw [suits]
    exact isEmpty_of_pattern
  · rfl
  iterate 6 exact isEmpty_of_single trimmed suits.1 suits.2
  iterate 2 exact isEmpty_of_several suits.1 suits.2
  iterate 2 exact (length_eq_one_iff suits).symm
  · exact suits.elim

theorem Passes.lenient_eq {schema : Schema} {config : FilterConfig} {entity : Entity}
    {key raw : String} {filter : ResolvedFilter}
    (passes : Passes schema config entity key raw filter) :
    filter.lenient = filter.instruction.isDegenerate := by
  obtain ⟨fieldType, suits⟩ := passes.suits
  exact passes.lenient.trans (isLenient_of_suits suits)

/-! ### Entries behind the predicates of a plan -/

/-- An entry with a text that is applied as `filter` in its context. -/
structure AppliedEntry (schema : Schema) (config : FilterConfig) (root : Context)
    (filters : FilterMap) where
  path : List String
  key : String
  raw : String
  context : Context
  filter : ResolvedFilter
  listed : filters.HasEntry path key (.text raw)
  reached : root.reach? schema config path = some context
  resolved : resolveFilter schema config context.entity key raw = .ok (.applied filter)

namespace AppliedEntry

variable {schema : Schema} {config : FilterConfig} {root : Context} {filters : FilterMap}

def step (applied : AppliedEntry schema config root filters) : QueryStep :=
  applied.filter.step applied.context.tableAlias

theorem passes (applied : AppliedEntry schema config root filters) :
    Passes schema config applied.context.entity applied.key applied.raw applied.filter :=
  resolveFilter_eq_applied_iff.mp applied.resolved

theorem lenient_eq_false (applied : AppliedEntry schema config root filters)
    (sound : ∀ v ∈ walk schema config filters root.entity root.tableAlias, v.problem? = none) :
    applied.filter.lenient = false := by
  have silent : (Verdict.ofText schema config applied.context.entity applied.context.tableAlias
      applied.key applied.raw).problem? = none :=
    sound _ ((mem_walk_iff root).mpr ⟨_, _, _, _, applied.listed, applied.reached, rfl⟩)
  unfold Verdict.ofText at silent
  rw [applied.resolved] at silent
  cases lenient : applied.filter.lenient with
  | false => rfl
  | true => simp [lenient, Verdict.problem?] at silent

end AppliedEntry

theorem exists_appliedEntry {schema : Schema} {config : FilterConfig} {filters : FilterMap}
    {root : Context} {visit : Visit} {predicate : Predicate}
    (member : visit ∈ walk schema config filters root.entity root.tableAlias)
    (taken : visit.step? = some (.restrict predicate)) :
    ∃ applied : AppliedEntry schema config root filters, applied.step = .restrict predicate := by
  obtain ⟨path, key, raw, context, filter, found, reached, resolved, step⟩ :=
    filter_of_mem_walk root member taken
  exact ⟨⟨path, key, raw, context, filter, found, reached, resolved⟩, step⟩

theorem exists_plan_of_valid {a : Applicator} {filters : FilterMap} {report : Report}
    (validated : validate a.schema a.root a.config filters = .ok report)
    (valid : report.isValid = true) :
    ∃ (root : Entity) (plan : QueryPlan), a.schema.entity? a.root = some root ∧
      (a.apply filters).1 = .ok plan ∧
      ∀ predicate ∈ plan.predicates,
        (∃ applied : AppliedEntry a.schema a.config ⟨root, a.entityAlias⟩ filters,
          applied.step = .restrict predicate) ∧
        ∀ applied : AppliedEntry a.schema a.config ⟨root, a.entityAlias⟩ filters,
          applied.filter.lenient = false := by
  cases declared : a.schema.declared a.root with
  | error error => simp [validate, declared, Except.bind] at validated
  | ok root =>
    rw [validate_eq_ofVisits a.config filters a.entityAlias declared] at validated
    have sound := problems_of_valid validated valid
    have noFailure := List.findSome?_eq_none_iff.mpr fun v member => (sound v member).1
    refine ⟨root, _, declared_eq_ok_iff.mp declared,
      (result_apply filters declared).trans (result_ofVisits_eq_query_iff.mpr ⟨noFailure, rfl⟩),
      fun predicate member => ⟨?_, fun applied =>
        applied.lenient_eq_false fun v visited => (sound v visited).2⟩⟩
    rcases QueryPlan.mem_predicates_addAll.mp member with old | added
    · exact absurd old List.not_mem_nil
    · obtain ⟨visit, visited, taken⟩ := List.mem_filterMap.mp added
      exact exists_appliedEntry visited taken

/-! ### The flag and the plan -/

/-- The flag of an applied filter says whether its instruction is degenerate, so that no comparison
for filters without problems is. -/
theorem lenient_iff_degenerate :
    (∀ schema config entity key raw filter,
      resolveFilter schema config entity key raw = .ok (.applied filter) →
      (filter.lenient = true ↔ filter.instruction.isDegenerate = true)) ∧
    ∀ (a : Applicator) (filters : FilterMap) (report : Report),
      validate a.schema a.root a.config filters = .ok report → report.isValid = true →
      ∃ plan : QueryPlan, (a.apply filters).1 = .ok plan ∧
        ∀ predicate ∈ plan.predicates,
          (∀ values,
            predicate.comparison = .within values ∨ predicate.comparison = .notWithin values →
            2 ≤ values.length) ∧
          (∀ compare ∈ [Comparison.eq, .neq, .gt, .gte, .lt, .lte],
            predicate.comparison ≠ compare (.text "")) ∧
          predicate.comparison ≠ .like "%%" := by
  refine ⟨fun schema config entity key raw filter resolved => ?_,
    fun a filters report validated valid => ?_⟩
  · rw [(resolveFilter_eq_applied_iff.mp resolved).lenient_eq]
  · obtain ⟨root, plan, -, applies, sources⟩ := exists_plan_of_valid validated valid
    refine ⟨plan, applies, fun predicate member => ?_⟩
    obtain ⟨⟨applied, restricts⟩, strict⟩ := sources predicate member
    have instruction := applied.filter.instruction_of_step restricts
    have items := applied.passes.hasItems instruction
    have plain : predicate.comparison.isDegenerate = false := by
      rw [← strict applied, applied.passes.lenient_eq, instruction, Instruction.isDegenerate]
    refine ⟨fun values listed => ?_, ?_, ?_⟩
    · rcases listed with same | same
      all_goals
        rw [same] at plain items
        simp only [Comparison.isDegenerate, Comparison.hasNoItems, beq_eq_false_iff_ne,
          List.isEmpty_eq_false_iff, ← List.length_pos_iff] at plain items
        omega
    · intro compare listed same
      rw [same] at plain
      simp only [List.mem_cons, List.not_mem_nil, or_false] at listed
      rcases listed with rfl | rfl | rfl | rfl | rfl | rfl
      all_goals exact absurd plain (by decide)
    · intro same
      rw [same] at plain
      exact absurd plain (by decide)

/-- A single identifier is a list of one, and a list of two is none, though one item is empty. -/
theorem lenient_iff_degenerate_concerts :
    let a : Applicator :=
      { schema := .concerts, root := "performance", config := { relationships := true } }
    let named : FilterMap := .text "name|like" "Ada" .empty
    let filters : FilterMap := .text "state" "Utah," (.nested "artist" named .empty)
    let single : ResolvedFilter :=
      { field := "artist"
        column := "artist_id"
        operator := .notWithin
        instruction := .restrict (.notWithin [.int 7])
        lenient := true }
    (∃ performance, a.schema.entity? a.root = some performance ∧
        resolveFilter a.schema a.config performance "artist|NotIn" " 7 " = .ok (.applied single)) ∧
      single.instruction.isDegenerate = true ∧
      validate a.schema a.root a.config filters = .ok {} ∧
      ∃ plan : QueryPlan, (a.apply filters).1 = .ok plan ∧
        ∀ predicate ∈ plan.predicates,
          (∀ values,
            predicate.comparison = .within values ∨ predicate.comparison = .notWithin values →
            2 ≤ values.length) ∧
          (∀ compare ∈ [Comparison.eq, .neq, .gt, .gte, .lt, .lte],
            predicate.comparison ≠ compare (.text "")) ∧
          predicate.comparison ≠ .like "%%" := by
  intro a named filters single
  let performance := (a.schema.entity? a.root).get (by decide +kernel)
  have resolved : resolveFilter a.schema a.config performance "artist|NotIn" " 7 " =
      .ok (.applied single) := by decide +kernel
  have validated : validate a.schema a.root a.config filters = .ok {} := by decide +kernel
  obtain ⟨flag, plans⟩ := lenient_iff_degenerate
  exact ⟨⟨performance, (Option.some_get _).symm, resolved⟩, (flag _ _ _ _ _ _ resolved).mp rfl,
    validated, plans a filters {} validated rfl⟩

end QueryFilter
