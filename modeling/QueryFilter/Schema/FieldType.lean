import QueryFilter.Text.Blank
import QueryFilter.Text.Lowercase

/-!
# Field types

What kind of value a field holds. A type has a tag, which messages show, and is read from its tag
or from one of a few synonyms; any other text names a type of its own, whose values stay text.
-/

namespace QueryFilter

inductive FieldType where
  | integer
  | bigInteger
  | float
  | boolean
  | string
  | date
  | dateTime
  | uuid
  | other (tag : String)
  deriving DecidableEq, Repr, Inhabited

namespace FieldType

def tag : FieldType → String
  | integer => "integer"
  | bigInteger => "bigint"
  | float => "float"
  | boolean => "boolean"
  | string => "string"
  | date => "date"
  | dateTime => "datetime"
  | uuid => "uuid"
  | other tag => tag

/-- The names of the types that are not `other`, in small letters. -/
def names : List (String × FieldType) :=
  [("int", integer), ("integer", integer), ("smallint", integer), ("bigint", bigInteger),
    ("float", float), ("double", float), ("bool", boolean), ("boolean", boolean),
    ("string", string), ("text", string), ("ascii_string", string), ("date", date),
    ("date_immutable", date), ("datetime", dateTime), ("datetime_immutable", dateTime),
    ("datetimetz", dateTime), ("datetimetz_immutable", dateTime), ("timestamp", dateTime),
    ("uuid", uuid), ("guid", uuid)]

/-- The type a text names. Blanks around it do not count, nor does the case of a known name. -/
def ofTag (text : String) : FieldType :=
  let name := Text.trimmed text
  (names.lookup (Text.lowercased name)).getD (other name)

/-- Whether values of the type are kept as text. -/
def isText : FieldType → Bool
  | string | other _ => true
  | _ => false

end FieldType

end QueryFilter
