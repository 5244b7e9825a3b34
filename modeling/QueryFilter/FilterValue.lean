import QueryFilter.Operator
import QueryFilter.Scalar
import QueryFilter.SortDirection

/-!
# Filter values

`FilterValue.decode` reads the text of a filter as what its operator consumes: nothing, a direction,
one value, a list or a pair. A comma separates values, and every value is read as the type of the
field.
-/

namespace QueryFilter

inductive FilterValue where
  | none
  | scalar (value : Scalar)
  | list (values : List Scalar)
  | pair (low high : Scalar)
  | sort (direction : SortDirection)
  deriving DecidableEq

inductive ValueError where
  /-- A part of it is no value of the field's type. -/
  | type (fieldType : FieldType) (value : String)
  /-- The number of values does not suit the operator. -/
  | shape (op : Operator) (value : String)
  deriving DecidableEq, Repr

namespace ValueError

def complaint (subject name value : String) : String :=
  subject ++ " '" ++ name ++ "' must receive a valid value, value given: '" ++ value ++ "'"

def typeMessage (tag value : String) : String := complaint "field type" tag value

def shapeMessage (token value : String) : String := complaint "operator" token value

def message : ValueError → String
  | type fieldType value => typeMessage fieldType.tag value
  | shape op value => shapeMessage op.token value

end ValueError

namespace FilterValue

def coerce (fieldType : FieldType) (s : List Char) : Except ValueError Scalar :=
  match Scalar.ofText? fieldType s with
  | some value => .ok value
  | Option.none => .error (.type fieldType (String.ofList s))

theorem coerce_eq_ok_iff {fieldType : FieldType} {s : List Char} {value : Scalar} :
    coerce fieldType s = .ok value ↔ Scalar.ofText? fieldType s = some value := by
  unfold coerce
  cases Scalar.ofText? fieldType s <;> simp

theorem coerce_eq_error_iff {fieldType : FieldType} {s : List Char} {error : ValueError} :
    coerce fieldType s = .error error ↔
      Scalar.ofText? fieldType s = Option.none ∧ error = .type fieldType (String.ofList s) := by
  unfold coerce
  cases Scalar.ofText? fieldType s <;> simp [eq_comm]

/-- The comma-separated parts of a trimmed text, each trimmed. -/
def parts (s : List Char) : List (List Char) := (Text.pieces ',' s).map Text.trim

def ofEmpty (fieldType : FieldType) (op : Operator) : Except ValueError FilterValue :=
  if fieldType.isText ∧ op.arity = .scalar then .ok (.scalar (.text ""))
  else .error (.shape op "")

def ofSingle (op : Operator) (value : String) (scalar : Scalar) :
    Except ValueError FilterValue :=
  match op.arity with
  | .scalar => .ok (.scalar scalar)
  | .list => .ok (.list [scalar])
  | .pair | .none => .error (.shape op value)

/-- What an operator makes of several values. Equality with a list means membership. -/
def ofSeveral (op : Operator) (value : String) (scalars : List Scalar) :
    Except ValueError FilterValue :=
  match op, scalars with
  | .between, [low, high] => .ok (.pair low high)
  | .within, _ | .notWithin, _ | .eq, _ | .neq, _ => .ok (.list scalars)
  | _, _ => .error (.shape op value)

def ofText (fieldType : FieldType) (op : Operator) (s : List Char) :
    Except ValueError FilterValue :=
  if ',' ∈ s then
    ((parts s).mapM (coerce fieldType)).bind (ofSeveral op (String.ofList s))
  else (coerce fieldType s).bind (ofSingle op (String.ofList s))

def decode (raw : String) (fieldType : FieldType) (op : Operator) :
    Except ValueError FilterValue :=
  let s := Text.trim raw.toList
  match op with
  | .isNull | .isNotNull => .ok .none
  | .sort => .ok (.sort (.ofText raw))
  | .like => .ok (.scalar (.text (String.ofList ('%' :: s ++ ['%']))))
  | op => if s = [] then ofEmpty fieldType op else ofText fieldType op s

end FilterValue

end QueryFilter
