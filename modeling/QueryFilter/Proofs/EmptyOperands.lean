import QueryFilter.Proofs.Leniency
import QueryFilter.Schema.Concerts

/-!
# Empty operands

A value that is blank as a whole is reported, but a blank part of a list is not: it is read as the
empty text on a textual field. These parts are the only way for the empty text into a plan for
filters without problems (`empty_text_bound_iff`).
-/

namespace QueryFilter

open FilterValue (Reads parts)

/-- Whether the comparison is one with several values: the two bounds of a range, or a list. -/
def Comparison.comparesSeveral : Comparison → Bool
  | .between .. | .within _ | .notWithin _ => true
  | .eq _ | .neq _ | .gt _ | .gte _ | .lt _ | .lte _ | .like _ | .isNull | .isNotNull => false

theorem Comparison.comparesSeveral_of_length {comparison : Comparison}
    (several : 2 ≤ comparison.operands.length) : comparison.comparesSeveral = true := by
  cases comparison with
  | between | within | notWithin => rfl
  | eq | neq | gt | gte | lt | lte | like | isNull | isNotNull =>
    exact absurd several (by simp [operands])

/-! ### Operands -/

section
variable {fieldType : FieldType} {s : List Char} {op : Operator} {comparison : Comparison}

theorem reads_operands_of_suits (reads : op.readsValues = true)
    (suits : (Instruction.restrict comparison).Suits fieldType s op) :
    Reads fieldType (parts s) comparison.operands := by
  cases op with
  | isNull | isNotNull | sort | like => exact nomatch reads
  | between =>
    cases comparison with
    | between low high => exact suits
    | _ => exact suits.elim
  | gt | gte | lt | lte =>
    cases comparison with
    | gt value | gte value | lt value | lte value => first | exact suits.2 | exact suits.elim
    | _ => exact suits.elim
  | eq | neq =>
    cases comparison with
    | eq value | neq value | within values | notWithin values =>
      first | exact suits.2 | exact suits.elim
    | _ => exact suits.elim
  | within | notWithin =>
    cases comparison with
    | within values | notWithin values => first | exact suits | exact suits.elim
    | _ => exact suits.elim

theorem empty_not_mem_operands (free : op.readsValues = false)
    (suits : (Instruction.restrict comparison).Suits fieldType s op) :
    .text "" ∉ comparison.operands := by
  cases op with
  | isNull | isNotNull =>
    cases comparison with
    | isNull | isNotNull => exact List.not_mem_nil
    | _ => exact suits.elim
  | sort => exact suits.elim
  | like =>
    cases comparison with
    | like pattern =>
      obtain rfl : pattern = _ := suits
      simp [Comparison.operands, ← String.toList_inj]
    | _ => exact suits.elim
  | eq | neq | gt | gte | lt | lte | between | within | notWithin => exact nomatch free

theorem isLenient_of_blank {raw : String} (reads : op.readsValues = true)
    (blank : Text.trim raw.toList = [])
    (suits : (Instruction.restrict comparison).Suits fieldType (Text.trim raw.toList) op) :
    isLenient op raw = true := by
  cases op with
  | isNull | isNotNull | sort | like => exact nomatch reads
  | eq | neq | gt | gte | lt | lte | within | notWithin => simp [isLenient, Operator.arity, blank]
  | between =>
    cases comparison with
    | between low high =>
      rw [blank] at suits
      exact absurd (FilterValue.Reads.length_eq suits) (by simp)
    | _ => exact suits.elim

end

namespace AppliedEntry

variable {schema : Schema} {config : FilterConfig} {root : Context} {filters : FilterMap}
  {predicate : Predicate}

theorem suits (applied : AppliedEntry schema config root filters)
    (restricts : applied.step = .restrict predicate) :
    ∃ fieldType, (Instruction.restrict predicate.comparison).Suits fieldType
      (Text.trim applied.raw.toList) applied.filter.operator := by
  obtain ⟨fieldType, suits⟩ := applied.passes.suits
  exact ⟨fieldType, applied.filter.instruction_of_step restricts ▸ suits⟩

/-- An entry binds the empty text exactly if its operator reads values and a part of its text is
blank. -/
theorem empty_mem_operands_iff (applied : AppliedEntry schema config root filters)
    (restricts : applied.step = .restrict predicate) :
    .text "" ∈ predicate.comparison.operands ↔
      applied.filter.operator.readsValues = true ∧ [] ∈ parts applied.raw.toList := by
  obtain ⟨fieldType, suits⟩ := applied.suits restricts
  cases reads : applied.filter.operator.readsValues with
  | false => simp [empty_not_mem_operands reads suits]
  | true =>
    have read := reads_operands_of_suits reads suits
    rw [FilterValue.parts_trim] at read
    simp [read.empty_mem_iff]

theorem comma_of_strict (applied : AppliedEntry schema config root filters)
    (restricts : applied.step = .restrict predicate) (strict : applied.filter.lenient = false)
    (reads : applied.filter.operator.readsValues = true)
    (blank : [] ∈ parts applied.raw.toList) : ',' ∈ applied.raw.toList := by
  by_contra single
  rw [FilterValue.parts_of_not_mem single, List.mem_singleton] at blank
  obtain ⟨fieldType, suits⟩ := applied.suits restricts
  have lenient := isLenient_of_blank reads blank.symm suits
  rw [← applied.passes.lenient, strict] at lenient
  exact nomatch lenient

theorem comparesSeveral (applied : AppliedEntry schema config root filters)
    (restricts : applied.step = .restrict predicate)
    (reads : applied.filter.operator.readsValues = true) (several : ',' ∈ applied.raw.toList) :
    predicate.comparison.comparesSeveral = true := by
  obtain ⟨fieldType, suits⟩ := applied.suits restricts
  have count := (reads_operands_of_suits reads suits).length_eq
  rw [FilterValue.parts_trim, FilterValue.length_parts] at count
  have commas : 0 < applied.raw.toList.count ',' := List.count_pos_iff.mpr several
  exact Comparison.comparesSeveral_of_length (by omega)

end AppliedEntry

/-! ### Plans -/

/-- A plan for filters without problems binds the empty text exactly where a value with a comma has
a blank part. -/
theorem empty_text_bound_iff {a : Applicator} {filters : FilterMap} {report : Report}
    (validated : validate a.schema a.root a.config filters = .ok report)
    (valid : report.isValid = true) :
    ∃ (root : Entity) (plan : QueryPlan), a.schema.entity? a.root = some root ∧
      (a.apply filters).1 = .ok plan ∧
      (∀ predicate ∈ plan.predicates,
        (.text "" ∈ predicate.comparison.operands ↔
          ∃ applied : AppliedEntry a.schema a.config ⟨root, a.entityAlias⟩ filters,
            applied.step = .restrict predicate ∧ applied.filter.operator.readsValues = true ∧
            ',' ∈ applied.raw.toList ∧ [] ∈ parts applied.raw.toList) ∧
        (.text "" ∈ predicate.comparison.operands →
          predicate.comparison.comparesSeveral = true)) ∧
      ((∀ path key raw, filters.HasEntry path key (.text raw) → ',' ∈ raw.toList →
          [] ∉ parts raw.toList) →
        ∀ predicate ∈ plan.predicates, .text "" ∉ predicate.comparison.operands) := by
  obtain ⟨root, plan, declared, applies, sources⟩ := exists_plan_of_valid validated valid
  have sourced : ∀ predicate ∈ plan.predicates, .text "" ∈ predicate.comparison.operands →
      ∃ applied : AppliedEntry a.schema a.config ⟨root, a.entityAlias⟩ filters,
        applied.step = .restrict predicate ∧ applied.filter.operator.readsValues = true ∧
        ',' ∈ applied.raw.toList ∧ [] ∈ parts applied.raw.toList := by
    intro predicate member bound
    obtain ⟨⟨applied, restricts⟩, strict⟩ := sources predicate member
    obtain ⟨reads, blank⟩ := (applied.empty_mem_operands_iff restricts).mp bound
    exact ⟨applied, restricts, reads,
      applied.comma_of_strict restricts (strict applied) reads blank, blank⟩
  refine ⟨root, plan, declared, applies, fun predicate member => ⟨⟨sourced predicate member, ?_⟩,
    fun bound => ?_⟩, fun whole predicate member bound => ?_⟩
  · rintro ⟨applied, restricts, reads, -, blank⟩
    exact (applied.empty_mem_operands_iff restricts).mpr ⟨reads, blank⟩
  · obtain ⟨applied, restricts, reads, several, -⟩ := sourced predicate member bound
    exact applied.comparesSeveral restricts reads several
  · obtain ⟨applied, -, -, several, blank⟩ := sourced predicate member bound
    exact whole _ _ _ applied.listed several blank

theorem empty_text_bound_iff_concerts :
    let a : Applicator := { schema := .concerts, root := "performance" }
    let filters : FilterMap := .text "state|notin" "Utah ,, Ohio" .empty
    let predicate : Predicate :=
      ⟨⟨"entity", "state"⟩, .notWithin [.text "Utah", .text "", .text "Ohio"]⟩
    validate a.schema a.root a.config filters = .ok {} ∧
      ∃ (root : Entity) (plan : QueryPlan), a.schema.entity? a.root = some root ∧
        (a.apply filters).1 = .ok plan ∧ plan.predicates = [predicate] ∧
        ∃ applied : AppliedEntry a.schema a.config ⟨root, a.entityAlias⟩ filters,
          applied.step = .restrict predicate ∧ ',' ∈ applied.raw.toList ∧
          [] ∈ parts applied.raw.toList := by
  intro a filters predicate
  have validated : validate a.schema a.root a.config filters = .ok {} := by decide +kernel
  have listed : (a.apply filters).1.map QueryPlan.predicates = .ok [predicate] := by decide +kernel
  obtain ⟨root, plan, declared, applies, bound, -⟩ := empty_text_bound_iff validated rfl
  rw [applies] at listed
  have only : plan.predicates = [predicate] := Except.ok.inj listed
  obtain ⟨⟨source, -⟩, -⟩ := bound predicate (only ▸ List.mem_singleton_self _)
  obtain ⟨applied, restricts, -, several, blank⟩ := source (by decide)
  exact ⟨validated, root, plan, declared, applies, only, applied, restricts, several, blank⟩

/-- A list that ends in a comma is without problems and compares with the empty text. -/
theorem empty_item_is_unreported :
    let a : Applicator := { schema := .concerts, root := "performance" }
    let filters : FilterMap := .text "state|in" "Utah," .empty
    let plan : QueryPlan :=
      { table := "performances"
        tableAlias := "entity"
        predicates := [⟨⟨"entity", "state"⟩, .within [.text "Utah", .text ""]⟩] }
    validate a.schema a.root a.config filters = .ok {} ∧ ({} : Report).isValid = true ∧
      (a.apply filters).1 = .ok plan ∧
      ∃ predicate ∈ plan.predicates, .text "" ∈ predicate.comparison.operands := by
  decide +kernel

end QueryFilter
