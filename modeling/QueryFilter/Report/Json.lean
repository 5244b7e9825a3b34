import QueryFilter.Json.Error
import QueryFilter.Report

/-!
# Reports as JSON

A report is an object with a member for each group. Reading it asks for every group, ignores other
members and also takes a list of the groups in order.
-/

namespace QueryFilter

namespace Json

def expectString : Json → Except JsonError String
  | string value => .ok value
  | json => .error (.mismatch (.ofJson json) .string)

def expectList {α : Type} (item : Json → Except JsonError α) :
    Json → Except JsonError (List α)
  | array items => items.mapM item
  | json => .error (.mismatch (.ofJson json) .sequence)

def require {α : Type} (name : String) : Option α → Except JsonError α
  | some value => .ok value
  | none => .error (.missingField name)

def itemAt {α : Type} (record : String) (size : Nat) (items : List Json) (position : Nat)
    (item : Json → Except JsonError α) : Except JsonError α :=
  match items[position]? with
  | some json => item json
  | none => .error (.tooFewItems position record size)

def noMoreItems (size : Nat) (items : List Json) : Except JsonError Unit :=
  if size < items.length then .error (.tooManyItems items.length) else .ok ()

def expectStrings (record first second : String) : Json → Except JsonError (String × String)
  | object members => do
    let (a, b) ← members.foldlM (fun (a, b) (key, value) => do
      if key = first then .ok (some (← expectString value), b)
      else if key = second then .ok (a, some (← expectString value))
      else .ok (a, b)) ((none, none) : Option String × Option String)
    .ok (← require first a, ← require second b)
  | array items => do
    let a ← itemAt record 2 items 0 expectString
    let b ← itemAt record 2 items 1 expectString
    noMoreItems 2 items
    .ok (a, b)
  | json => .error (.mismatch (.ofJson json) (.record record))

end Json

def OperatorComplaint.toJson (c : OperatorComplaint) : Json :=
  .object [("operator", .string c.operator), ("value", .string c.value)]

def OperatorComplaint.ofJson (json : Json) : Except JsonError OperatorComplaint :=
  (Json.expectStrings "InvalidOperatorValue" "operator" "value" json).map fun (operator, value) =>
    { operator, value }

def TypeComplaint.toJson (c : TypeComplaint) : Json :=
  .object [("field_type", .string c.fieldType), ("value", .string c.value)]

def TypeComplaint.ofJson (json : Json) : Except JsonError TypeComplaint :=
  (Json.expectStrings "InvalidTypedValue" "field_type" "value" json).map fun (fieldType, value) =>
    { fieldType, value }

namespace Report

def toJson (r : Report) : Json :=
  .object [
    ("unavailable_fields", .array (r.unavailableFields.map .string)),
    ("unavailable_joins", .array (r.unavailableJoins.map .string)),
    ("unavailable_operators", .array (r.unavailableOperators.map .string)),
    ("invalid_values", .array (r.invalidValues.map OperatorComplaint.toJson)),
    ("invalid_typed_values", .array (r.invalidTypedValues.map TypeComplaint.toJson))]

structure Draft where
  unavailableFields : Option (List String) := none
  unavailableJoins : Option (List String) := none
  unavailableOperators : Option (List String) := none
  invalidValues : Option (List OperatorComplaint) := none
  invalidTypedValues : Option (List TypeComplaint) := none

def names : Json → Except JsonError (List String) := Json.expectList Json.expectString

def operatorComplaints : Json → Except JsonError (List OperatorComplaint) :=
  Json.expectList OperatorComplaint.ofJson

def typeComplaints : Json → Except JsonError (List TypeComplaint) :=
  Json.expectList TypeComplaint.ofJson

def Draft.take (draft : Draft) (key : String) (value : Json) : Except JsonError Draft :=
  match key with
  | "unavailable_fields" =>
    (names value).map fun group => { draft with unavailableFields := some group }
  | "unavailable_joins" =>
    (names value).map fun group => { draft with unavailableJoins := some group }
  | "unavailable_operators" =>
    (names value).map fun group => { draft with unavailableOperators := some group }
  | "invalid_values" =>
    (operatorComplaints value).map fun group => { draft with invalidValues := some group }
  | "invalid_typed_values" =>
    (typeComplaints value).map fun group => { draft with invalidTypedValues := some group }
  | _ => .ok draft

def Draft.finish (draft : Draft) : Except JsonError Report := do
  let unavailableFields ← Json.require "unavailable_fields" draft.unavailableFields
  let unavailableJoins ← Json.require "unavailable_joins" draft.unavailableJoins
  let unavailableOperators ← Json.require "unavailable_operators" draft.unavailableOperators
  let invalidValues ← Json.require "invalid_values" draft.invalidValues
  let invalidTypedValues ← Json.require "invalid_typed_values" draft.invalidTypedValues
  .ok { unavailableFields, unavailableJoins, unavailableOperators, invalidValues,
        invalidTypedValues }

def recordName : String := "ValidationReport"

def ofItems (items : List Json) : Except JsonError Report := do
  let unavailableFields ← Json.itemAt recordName 5 items 0 names
  let unavailableJoins ← Json.itemAt recordName 5 items 1 names
  let unavailableOperators ← Json.itemAt recordName 5 items 2 names
  let invalidValues ← Json.itemAt recordName 5 items 3 operatorComplaints
  let invalidTypedValues ← Json.itemAt recordName 5 items 4 typeComplaints
  Json.noMoreItems 5 items
  .ok { unavailableFields, unavailableJoins, unavailableOperators, invalidValues,
        invalidTypedValues }

def ofJson (json : Json) : Except JsonError Report :=
  match json.normalize with
  | .object members => do
    let draft ← members.foldlM (fun draft (key, value) => draft.take key value) ({} : Draft)
    draft.finish
  | .array items => ofItems items
  | json => .error (.mismatch (.ofJson json) (.record recordName))

end Report

end QueryFilter
