/-!
# Operators

The closed set of filter operators with the token that names each in a filter key, and the set of
those that a configuration leaves enabled. Operators can be taken out of a set and never come back.
-/

namespace QueryFilter

inductive Operator where
  | eq
  | neq
  | gt
  | gte
  | lt
  | lte
  | between
  | like
  | within
  | notWithin
  | isNull
  | isNotNull
  | sort
  deriving DecidableEq, Repr, Inhabited

/-- How many values an operator consumes. -/
inductive Arity where
  | none
  | scalar
  | list
  | pair
  deriving DecidableEq, Repr

namespace Operator

/-- Every operator, in canonical order. -/
def all : List Operator :=
  [.eq, .neq, .gt, .gte, .lt, .lte, .between, .like, .within, .notWithin, .isNull, .isNotNull,
    .sort]

def token : Operator → String
  | eq => "eq"
  | neq => "neq"
  | gt => "gt"
  | gte => "gte"
  | lt => "lt"
  | lte => "lte"
  | between => "between"
  | like => "like"
  | within => "in"
  | notWithin => "notin"
  | isNull => "isnull"
  | isNotNull => "isnotnull"
  | sort => "sort"

def arity : Operator → Arity
  | isNull | isNotNull => .none
  | within | notWithin => .list
  | between => .pair
  | eq | neq | gt | gte | lt | lte | like | sort => .scalar

def ofToken? (token : String) : Option Operator := all.find? fun op => op.token == token

def unknownMessage (token : String) : String := "unknown operator '" ++ token ++ "'"

theorem token_injective {a b : Operator} (h : a.token = b.token) : a = b := by
  revert h; cases a <;> cases b <;> decide

theorem token_inj {a b : Operator} : a.token = b.token ↔ a = b :=
  ⟨token_injective, congrArg token⟩

theorem ofToken?_token (op : Operator) : ofToken? op.token = some op := by
  cases op <;> decide

theorem ofToken?_eq_some_iff {token : String} {op : Operator} :
    ofToken? token = some op ↔ op.token = token := by
  constructor
  · intro h
    simpa using List.find?_some h
  · rintro rfl
    exact ofToken?_token op

end Operator

/-- Enabled operators, in canonical order. -/
structure OperatorSet where
  enabled : List Operator
  sublist : enabled.Sublist Operator.all
  deriving DecidableEq

namespace OperatorSet

def all : OperatorSet := ⟨Operator.all, List.Sublist.refl _⟩

instance : Inhabited OperatorSet := ⟨all⟩

def isEnabled (s : OperatorSet) (op : Operator) : Bool := s.enabled.contains op

/-- The operator with this token, if it is enabled. -/
def lookup? (s : OperatorSet) (token : String) : Option Operator :=
  (Operator.ofToken? token).filter s.isEnabled

def removeOperator (s : OperatorSet) (op : Operator) : OperatorSet :=
  ⟨s.enabled.filter (· != op), List.filter_sublist.trans s.sublist⟩

/-- Removes the operator with this token; a token that names none changes nothing. -/
def remove (s : OperatorSet) (token : String) : OperatorSet :=
  match Operator.ofToken? token with
  | some op => s.removeOperator op
  | none => s

def removeAll (s : OperatorSet) (tokens : List String) : OperatorSet := tokens.foldl remove s

@[simp] theorem isEnabled_all (op : Operator) : all.isEnabled op = true := by
  cases op <;> decide

theorem ext {s t : OperatorSet} (same : s.enabled = t.enabled) : s = t := by
  cases s
  cases t
  cases same
  rfl

theorem enabled_remove (s : OperatorSet) (token : String) :
    (s.remove token).enabled = s.enabled.filter fun op => op.token ≠ token := by
  unfold remove
  cases found : Operator.ofToken? token with
  | some named =>
    obtain rfl := Operator.ofToken?_eq_some_iff.mp found
    refine List.filter_congr fun op _ => ?_
    rw [Bool.eq_iff_iff]
    simp [Operator.token_inj]
  | none =>
    refine (List.filter_eq_self.mpr fun op _ => ?_).symm
    have other : op.token ≠ token := fun same =>
      nomatch found.symm.trans (Operator.ofToken?_eq_some_iff.mpr same)
    simpa using other

/-- Of removals only which tokens they name counts, and not their order or number. -/
theorem enabled_removeAll (s : OperatorSet) (tokens : List String) :
    (s.removeAll tokens).enabled = s.enabled.filter fun op => op.token ∉ tokens := by
  induction tokens generalizing s with
  | nil => exact (List.filter_eq_self.mpr fun op _ => by simp).symm
  | cons token rest ih =>
    have next : s.removeAll (token :: rest) = (s.remove token).removeAll rest := rfl
    rw [next, ih, enabled_remove, List.filter_filter]
    refine List.filter_congr fun op _ => ?_
    rw [Bool.eq_iff_iff]
    simp [and_comm]

theorem isEnabled_removeAll (s : OperatorSet) (tokens : List String) (op : Operator) :
    (s.removeAll tokens).isEnabled op = (s.isEnabled op && !tokens.contains op.token) := by
  rw [isEnabled, enabled_removeAll, Bool.eq_iff_iff]
  simp [isEnabled]

theorem lookup?_eq_some_iff {s : OperatorSet} {token : String} {op : Operator} :
    s.lookup? token = some op ↔ op.token = token ∧ s.isEnabled op = true := by
  simp only [lookup?, Option.filter_eq_some_iff, Operator.ofToken?_eq_some_iff]

end OperatorSet

end QueryFilter
