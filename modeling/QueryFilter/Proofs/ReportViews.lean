import Mathlib.Data.List.Forall2
import QueryFilter.FilterError

/-!
# Views of a report

Validity, lines, message, failure and response of a report are views of the same problems, and they
agree for every report (`views_agree`). Each line tells the problems that share it, in order
(`forall₂_describes`), and the message is made of the lines, so no problem is missing from it
(`mentions_message`).
-/

namespace QueryFilter

/-! ### Words in a text -/

namespace Text

/-- The words stand in the text one behind the other. -/
inductive Mentions : List String → List Char → Prop
  | nil (text : List Char) : Mentions [] text
  | cons (before : List Char) (word : String) {words : List String} {after : List Char}
    (rest : Mentions words after) : Mentions (word :: words) (before ++ word.toList ++ after)

namespace Mentions

variable {words : List String} {text : List Char}

theorem behind (mentions : Mentions words text) (before : List Char) :
    Mentions words (before ++ text) := by
  cases mentions with
  | nil => exact .nil _
  | cons front word rest =>
    rw [← List.append_assoc, ← List.append_assoc]
    exact .cons (before ++ front) word rest

theorem append (mentions : Mentions words text) {more : List String} {next : List Char}
    (others : Mentions more next) : Mentions (words ++ more) (text ++ next) := by
  induction mentions with
  | nil text => exact others.behind text
  | cons before word _ ih =>
    rw [List.append_assoc]
    exact .cons before word ih

theorem self (word : String) : Mentions [word] word.toList := by
  simpa using cons [] word (nil [])

theorem intercalate (separator : String) {groups : List (List String)} {lines : List String}
    (told : List.Forall₂ (fun words line => Mentions words line.toList) groups lines) :
    Mentions groups.flatten (separator.intercalate lines).toList := by
  induction told with
  | nil => exact .nil _
  | @cons words line groups lines first rest ih =>
    cases rest with
    | nil => simpa using first
    | cons =>
      rw [String.intercalate_cons_cons, String.toList_append, String.toList_append,
        List.append_assoc]
      exact first.append (ih.behind separator.toList)

theorem joined (separator : String) (words : List String) :
    Mentions words (separator.intercalate words).toList := by
  have each : List.Forall₂ (fun words line => Mentions words line.toList)
      (words.map fun word => [word]) words := by
    rw [List.forall₂_map_left_iff, List.forall₂_same]
    exact fun word _ => self word
  simpa [← List.flatMap_def] using intercalate separator each

end Mentions

end Text

/-! ### The lines of a report -/

namespace Problem

/-- The texts that a problem holds. -/
def words : Problem → List String
  | field name | join name | operator name => [name]
  | value complaint => [complaint.operator, complaint.value]
  | typedValue complaint => [complaint.fieldType, complaint.value]

/-- How a line that tells such a problem starts. -/
def heading : Problem → String
  | field _ => "invalid field(s): "
  | join _ => "invalid join(s): "
  | operator _ => "invalid operator(s): "
  | value _ => "operator '"
  | typedValue _ => "field type '"

/-- The line starts as each of the problems wants it to and tells them in order. -/
def Describes (problems : List Problem) (line : String) : Prop :=
  ∃ rest, (∀ problem ∈ problems, line.toList = problem.heading.toList ++ rest) ∧
    Text.Mentions (problems.flatMap words) rest

theorem Describes.mentions {problems : List Problem} {line : String}
    (describes : Describes problems line) : Text.Mentions (problems.flatMap words) line.toList := by
  obtain ⟨rest, starts, mentions⟩ := describes
  cases problems with
  | nil => exact .nil _
  | cons problem others =>
    rw [starts problem List.mem_cons_self]
    exact mentions.behind _

theorem describes_complaint {problem : Problem} {subject name value : String}
    (heading : problem.heading = subject ++ " '") (words : problem.words = [name, value]) :
    Describes [problem] (ValueError.complaint subject name value) := by
  refine ⟨name.toList ++ ("' must receive a valid value, value given: '".toList ++
    (value.toList ++ "'".toList)), fun other member => ?_, ?_⟩
  · rw [List.mem_singleton.mp member, heading]
    simp [ValueError.complaint, List.append_assoc]
  · rw [List.flatMap_singleton, words]
    exact (Text.Mentions.self name).append
      (((Text.Mentions.self value).append (.nil _)).behind _)

end Problem

namespace Report

open Problem (Describes)

/-- The problems of a report, with those in one list that share a line. -/
def lines (r : Report) : List (List Problem) :=
  ([r.unavailableFields.map .field, r.unavailableJoins.map .join,
      r.unavailableOperators.map .operator].filter fun group => !group.isEmpty) ++
    r.invalidValues.map (fun complaint => [.value complaint]) ++
    r.invalidTypedValues.map fun complaint => [.typedValue complaint]

theorem flatten_lines (r : Report) :
    r.lines.flatten = r.unavailableFields.map .field ++ r.unavailableJoins.map .join ++
      r.unavailableOperators.map .operator ++ r.invalidValues.map .value ++
      r.invalidTypedValues.map .typedValue := by
  rw [lines, List.flatten_append, List.flatten_append, List.flatten_filter_not_isEmpty]
  simp only [← List.flatMap_def, ← List.map_eq_flatMap, List.flatten_cons, List.flatten_nil,
    List.append_nil, List.append_assoc]

theorem addAll_flatten_lines (r : Report) : ({} : Report).addAll r.lines.flatten = r := by
  rw [addAll_eq, flatten_lines]
  simp [List.filterMap_map, Function.comp_def, Problem.field?, Problem.join?, Problem.operator?,
    Problem.value?, Problem.typedValue?]

theorem forall₂_group (kind : String → Problem) (title : String)
    (heading : ∀ name, (kind name).heading = title ++ ": ")
    (words : ∀ name, (kind name).words = [name]) (names : List String) :
    List.Forall₂ Describes ([names.map kind].filter fun group => !group.isEmpty)
      (groupLine title names) := by
  cases names with
  | nil => exact .nil
  | cons name others =>
    refine .cons ⟨(", ".intercalate (name :: others)).toList, fun problem member => ?_, ?_⟩ .nil
    · obtain ⟨other, -, rfl⟩ := List.mem_map.mp member
      rw [heading, String.toList_append]
    · have singles : ((name :: others).map kind).flatMap Problem.words = name :: others := by
        simp only [List.flatMap_map, words, List.flatMap_singleton']
      rw [singles]
      exact Text.Mentions.joined ", " _

theorem forall₂_groups (r : Report) :
    List.Forall₂ Describes
      (([r.unavailableFields.map Problem.field] ++ [r.unavailableJoins.map Problem.join] ++
        [r.unavailableOperators.map Problem.operator]).filter fun group => !group.isEmpty)
      (groupLine "invalid field(s)" r.unavailableFields ++
        groupLine "invalid join(s)" r.unavailableJoins ++
        groupLine "invalid operator(s)" r.unavailableOperators) := by
  rw [List.filter_append, List.filter_append]
  refine List.rel_append (List.rel_append ?fields ?joins) ?operators
  case fields => exact forall₂_group .field "invalid field(s)" (fun _ => rfl) (fun _ => rfl) _
  case joins => exact forall₂_group .join "invalid join(s)" (fun _ => rfl) (fun _ => rfl) _
  case operators =>
    exact forall₂_group .operator "invalid operator(s)" (fun _ => rfl) (fun _ => rfl) _

theorem forall₂_describes (r : Report) : List.Forall₂ Describes r.lines r.errors := by
  refine List.rel_append (List.rel_append r.forall₂_groups ?values) ?typedValues
  all_goals rw [List.forall₂_map_left_iff, List.forall₂_map_right_iff, List.forall₂_same]
  case values => exact fun complaint _ => Problem.describes_complaint rfl rfl
  case typedValues => exact fun complaint _ => Problem.describes_complaint rfl rfl

theorem mentions_message (r : Report) (separator : String) :
    Text.Mentions (r.lines.flatten.flatMap Problem.words)
      (separator.intercalate r.errors).toList := by
  have told : List.Forall₂ (fun words line => Text.Mentions words line.toList)
      (r.lines.map fun problems => problems.flatMap Problem.words) r.errors := by
    rw [List.forall₂_map_left_iff]
    exact r.forall₂_describes.imp fun problems line => Describes.mentions
  rw [List.flatMap_def, List.map_flatten, List.flatten_flatten, List.map_map]
  exact Text.Mentions.intercalate separator told

/-! ### Agreement of the views -/

theorem groupLine_eq_nil_iff {title : String} {names : List String} :
    groupLine title names = [] ↔ names = [] := by
  unfold groupLine
  split <;> simp_all

theorem errors_eq_nil_iff {r : Report} : r.errors = [] ↔ r.isValid = true := by
  simp only [errors, isValid, List.append_eq_nil_iff, groupLine_eq_nil_iff, List.map_eq_nil_iff,
    Bool.and_eq_true, List.isEmpty_iff]

theorem message?_of_errors {r : Report} (problems : r.errors ≠ []) :
    r.message? = some (" | ".intercalate r.errors) := by
  rw [message?, if_neg (by simpa using problems)]

theorem message?_eq_none_iff {r : Report} : r.message? = none ↔ r.errors = [] := by
  constructor
  · intro silent
    by_contra problems
    exact nomatch silent.symm.trans (message?_of_errors problems)
  · intro valid
    rw [message?, valid]
    rfl

theorem intoResult_eq_ok_iff {r : Report} : r.intoResult = .ok () ↔ r.isValid = true := by
  unfold intoResult
  split <;> simp_all

/-- All views of a report tell its problems and agree on whether there are any. -/
theorem views_agree (r : Report) :
    (r.isValid = true ↔ r.errors = []) ∧ (r.errors = [] ↔ r.message? = none) ∧
    (r.message? = none ↔ r.intoResult = .ok ()) ∧
    (r.isValid = false →
      let failure : FilterError := .validationFailed r
      r.intoResult = .error failure ∧ r.message? = some failure.message ∧
        failure.message = " | ".intercalate r.errors ∧
        Text.Mentions (r.lines.flatten.flatMap Problem.words) failure.message.toList ∧
        failure.response.status = 422 ∧
        ∃ members, failure.response.body = .object members ∧
          Json.member? members "details" = some (.array (r.errors.map .string))) ∧
    List.Forall₂ Describes r.lines r.errors ∧ ({} : Report).addAll r.lines.flatten = r := by
  refine ⟨errors_eq_nil_iff.symm, message?_eq_none_iff.symm,
    message?_eq_none_iff.trans (errors_eq_nil_iff.trans intoResult_eq_ok_iff.symm),
    fun invalid => ?_, r.forall₂_describes, r.addAll_flatten_lines⟩
  have problems : r.errors ≠ [] := fun none => by
    rw [errors_eq_nil_iff.mp none] at invalid
    exact nomatch invalid
  have told := message?_of_errors problems
  have shown : (FilterError.validationFailed r).message = " | ".intercalate r.errors := by
    simp only [FilterError.message, FilterError.userMessage, told, Option.getD_some]
  refine ⟨?_, told.trans (congrArg some shown.symm), shown, ?_, rfl, _, rfl, rfl⟩
  · rw [intoResult, invalid]
    rfl
  · rw [shown]
    exact r.mentions_message " | "

/-- A report with names and values that hold separators and with a type that is none. -/
theorem views_agree_handmade :
    let r : Report :=
      { unavailableFields := ["a, b", ""], unavailableOperators := ["eq"],
        invalidTypedValues := [⟨"no type", " | "⟩] }
    r.isValid = false ∧ r.intoResult = .error (.validationFailed r) ∧
      r.message? = some ("invalid field(s): a, b,  | invalid operator(s): eq | " ++
        "field type 'no type' must receive a valid value, value given: ' | '") := by
  intro r
  have invalid : r.isValid = false := rfl
  obtain ⟨-, -, -, fails, -, -⟩ := r.views_agree
  obtain ⟨failed, told, joined, -⟩ := fails invalid
  have text : " | ".intercalate r.errors =
      "invalid field(s): a, b,  | invalid operator(s): eq | " ++
        "field type 'no type' must receive a valid value, value given: ' | '" := by decide +kernel
  exact ⟨invalid, failed, told.trans (congrArg some (joined.trans text))⟩

end Report

end QueryFilter
