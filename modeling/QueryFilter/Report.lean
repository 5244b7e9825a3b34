import QueryFilter.FilterValue

/-!
# Validation reports

Every problem found in a filter map, grouped by kind; each group lists its problems in the order in
which they were met. `Report.size_addAll` says that grouping loses none.
-/

namespace QueryFilter

/-- A value that does not suit its operator. -/
structure OperatorComplaint where
  operator : String
  value : String
  deriving DecidableEq, Repr

/-- A value that is none of its field's type. -/
structure TypeComplaint where
  fieldType : String
  value : String
  deriving DecidableEq, Repr

inductive Problem where
  | field (name : String)
  | join (name : String)
  | operator (token : String)
  | value (complaint : OperatorComplaint)
  | typedValue (complaint : TypeComplaint)
  deriving DecidableEq, Repr

structure Report where
  /-- Unknown fields, fields that may not be filtered and associations without an identifier. -/
  unavailableFields : List String := []
  /-- Unknown associations, or any while relationships are off. -/
  unavailableJoins : List String := []
  /-- Operators that are unknown or not enabled. -/
  unavailableOperators : List String := []
  invalidValues : List OperatorComplaint := []
  invalidTypedValues : List TypeComplaint := []
  deriving DecidableEq, Repr

namespace Problem

def field? : Problem → Option String
  | field name => some name
  | _ => none

def join? : Problem → Option String
  | join name => some name
  | _ => none

def operator? : Problem → Option String
  | operator token => some token
  | _ => none

def value? : Problem → Option OperatorComplaint
  | value complaint => some complaint
  | _ => none

def typedValue? : Problem → Option TypeComplaint
  | typedValue complaint => some complaint
  | _ => none

end Problem

def OperatorComplaint.message (c : OperatorComplaint) : String :=
  ValueError.shapeMessage c.operator c.value

def TypeComplaint.message (c : TypeComplaint) : String :=
  ValueError.typeMessage c.fieldType c.value

namespace Report

/-- The report with one more problem, at the end of its group. -/
def add (r : Report) : Problem → Report
  | .field name => { r with unavailableFields := r.unavailableFields ++ [name] }
  | .join name => { r with unavailableJoins := r.unavailableJoins ++ [name] }
  | .operator token => { r with unavailableOperators := r.unavailableOperators ++ [token] }
  | .value complaint => { r with invalidValues := r.invalidValues ++ [complaint] }
  | .typedValue complaint => { r with invalidTypedValues := r.invalidTypedValues ++ [complaint] }

def addAll (r : Report) (problems : List Problem) : Report := problems.foldl add r

def size (r : Report) : Nat :=
  r.unavailableFields.length + r.unavailableJoins.length + r.unavailableOperators.length +
    r.invalidValues.length + r.invalidTypedValues.length

theorem size_add (r : Report) (problem : Problem) : (r.add problem).size = r.size + 1 := by
  cases problem <;> simp only [size, add, List.length_append, List.length_singleton] <;> omega

theorem size_addAll (r : Report) (problems : List Problem) :
    (r.addAll problems).size = r.size + problems.length := by
  induction problems generalizing r with
  | nil => rfl
  | cons problem rest ih =>
    rw [addAll, List.foldl_cons, ← addAll, ih, size_add, List.length_cons]
    omega

theorem addAll_eq (r : Report) (problems : List Problem) :
    r.addAll problems =
      { unavailableFields := r.unavailableFields ++ problems.filterMap Problem.field?
        unavailableJoins := r.unavailableJoins ++ problems.filterMap Problem.join?
        unavailableOperators := r.unavailableOperators ++ problems.filterMap Problem.operator?
        invalidValues := r.invalidValues ++ problems.filterMap Problem.value?
        invalidTypedValues :=
          r.invalidTypedValues ++ problems.filterMap Problem.typedValue? } := by
  induction problems generalizing r with
  | nil => simp [addAll]
  | cons problem rest ih =>
    rw [addAll, List.foldl_cons, ← addAll, ih]
    cases problem <;>
      simp [add, List.filterMap_cons, Problem.field?, Problem.join?, Problem.operator?,
        Problem.value?, Problem.typedValue?]

def isValid (r : Report) : Bool :=
  r.unavailableFields.isEmpty && r.unavailableJoins.isEmpty && r.unavailableOperators.isEmpty &&
    r.invalidValues.isEmpty && r.invalidTypedValues.isEmpty

theorem size_eq_zero_iff {r : Report} : r.size = 0 ↔ r.isValid = true := by
  simp only [size, isValid, Nat.add_eq_zero_iff, List.length_eq_zero_iff, Bool.and_eq_true,
    List.isEmpty_iff]

/-- One line that lists a group, or none for an empty group. -/
def groupLine (title : String) (names : List String) : List String :=
  if names.isEmpty then [] else [title ++ ": " ++ ", ".intercalate names]

def errors (r : Report) : List String :=
  groupLine "invalid field(s)" r.unavailableFields ++
    groupLine "invalid join(s)" r.unavailableJoins ++
    groupLine "invalid operator(s)" r.unavailableOperators ++
    r.invalidValues.map OperatorComplaint.message ++
    r.invalidTypedValues.map TypeComplaint.message

def message? (r : Report) : Option String :=
  if r.errors.isEmpty then none else some (" | ".intercalate r.errors)

end Report

end QueryFilter
