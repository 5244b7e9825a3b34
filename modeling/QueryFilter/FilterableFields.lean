import QueryFilter.Dict
import QueryFilter.Json.Reader

/-!
# Filterable fields

Which fields may be filtered: all of them, or only those listed. A list that holds a star stands
for all.
-/

namespace QueryFilter

inductive FilterableFields where
  | all
  | only (names : NameSet)
  deriving DecidableEq, Inhabited

namespace FilterableFields

def setOf (names : List String) : NameSet := .ofList (names.map fun name => (name, ()))

def ofNames (names : List String) : FilterableFields :=
  if "*" ∈ names then all else only (setOf names)

def allows (fields : FilterableFields) (field : String) : Bool :=
  match fields with
  | all => true
  | only names => names.contains field

def toJson : FilterableFields → Json
  | all => .string "All"
  | only names => .object [("Only", .array (names.keys.map .string))]

def stringItem? : Json → Option String
  | .string value => some value
  | _ => none

/-- What `toJson` writes, and `all` also as an object. A star has no meaning in it. -/
def ofJson? : Json → Option FilterableFields
  | .string "All" => some all
  | .object [("All", .null)] => some all
  | .object [("Only", .array items)] =>
    (items.mapM stringItem?).map fun names => only (setOf names)
  | _ => none

def ofJsonText? (text : String) : Option FilterableFields :=
  match Json.read text.toList with
  | .ok json => ofJson? json
  | .error _ => none

end FilterableFields

end QueryFilter
