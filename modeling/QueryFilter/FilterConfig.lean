import QueryFilter.FilterableFields
import QueryFilter.Operator

/-!
# Configurations

What a filter may use: the enabled operators, other names for fields, the fields that may be
filtered, and whether filters may follow associations.
-/

namespace QueryFilter

structure FilterConfig where
  operators : OperatorSet := .all
  /-- The field name that each alias stands for. -/
  aliases : Dict String := .empty
  filterable : FilterableFields := .all
  relationships : Bool := false
  deriving DecidableEq

namespace FilterConfig

instance : Inhabited FilterConfig := ⟨{}⟩

def withoutOperator (config : FilterConfig) (token : String) : FilterConfig :=
  { config with operators := config.operators.remove token }

def withoutOperators (config : FilterConfig) (tokens : List String) : FilterConfig :=
  { config with operators := config.operators.removeAll tokens }

def withRelationships (config : FilterConfig) (enabled : Bool) : FilterConfig :=
  { config with relationships := enabled }

def withAliases (config : FilterConfig) (aliases : List (String × String)) : FilterConfig :=
  { config with aliases := .ofList aliases }

def withFilterableFields (config : FilterConfig) (names : List String) : FilterConfig :=
  { config with filterable := .ofNames names }

end FilterConfig

end QueryFilter
