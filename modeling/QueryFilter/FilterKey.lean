import QueryFilter.Dict
import QueryFilter.Operator
import QueryFilter.Text.Blank
import QueryFilter.Text.Lowercase
import QueryFilter.Text.Pieces

/-!
# Filter keys

A filter key is a field name, or a field name and an operator token with a bar between them. Only
the first bar separates. Blanks around either part do not count, nor does the case of the token.
-/

namespace QueryFilter

inductive KeyOperator where
  | enabled (op : Operator)
  /-- The key has no bar and equality, which it then means, is not enabled. -/
  | implicitDisabled
  /-- The token, in small letters, of no enabled operator. -/
  | unavailable (token : String)
  deriving DecidableEq, Repr

/-- A key as it is understood: the field after the aliases, and the operator. -/
structure FilterKey where
  field : String
  operator : KeyOperator
  deriving DecidableEq, Repr

namespace KeyOperator

def operator? : KeyOperator → Option Operator
  | enabled op => some op
  | implicitDisabled | unavailable _ => none

def ofToken (operators : OperatorSet) (token : String) : KeyOperator :=
  match operators.lookup? token with
  | some op => enabled op
  | none => unavailable token

/-- The operator of a key without a bar. -/
def implicit (operators : OperatorSet) : KeyOperator :=
  if operators.isEnabled .eq then enabled .eq else implicitDisabled

theorem implicit_eq_enabled_iff {operators : OperatorSet} {op : Operator} :
    implicit operators = enabled op ↔ operators.isEnabled op = true ∧ op = .eq := by
  unfold implicit
  split
  · rename_i on
    rw [enabled.injEq]
    exact ⟨fun same => ⟨same ▸ on, same.symm⟩, fun found => found.2.symm⟩
  · rename_i off
    refine ⟨fun same => (nomatch same), ?_⟩
    rintro ⟨on, rfl⟩
    exact absurd on off

theorem ofToken_eq_enabled_iff {operators : OperatorSet} {text : String} {op : Operator} :
    ofToken operators text = enabled op ↔ operators.isEnabled op = true ∧ text = op.token := by
  rw [and_comm, eq_comm (a := text), ← OperatorSet.lookup?_eq_some_iff]
  unfold ofToken
  cases operators.lookup? text <;> simp

end KeyOperator

namespace FilterKey

/-- The field as the key has it, before any alias. -/
def writtenField (key : String) : String :=
  match Text.splitFirst '|' key.toList with
  | some (field, _) => String.ofList (Text.trim field)
  | none => Text.trimmed key

def decode (aliases : Dict String) (operators : OperatorSet) (key : String) : FilterKey :=
  let written := writtenField key
  { field := (aliases.get? written).getD written
    operator := match Text.splitFirst '|' key.toList with
      | some (_, token) =>
        .ofToken operators (String.ofList (Text.lowercase (Text.trim token)))
      | none => .implicit operators }

end FilterKey

end QueryFilter
