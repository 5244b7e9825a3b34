import QueryFilter.Json.Value
import QueryFilter.Report

/-!
# Filter errors

What keeps a filter from being applied, and how each cause is answered. A fault of the server's own
configuration or schema is not described to clients.
-/

namespace QueryFilter

inductive FilterError where
  /-- The settings of an applicator are wrong. -/
  | configuration (message : String)
  /-- An entity is named that the schema does not declare. -/
  | unknownEntity (entity : String)
  /-- A value is none of its field's type. -/
  | invalidValue (field : String) (fieldType : FieldType) (value : String)
  /-- The input is no filter map at all. -/
  | malformedFilter (message : String)
  | validationFailed (report : Report)
  deriving DecidableEq, Repr

namespace FilterError

def userMessage : FilterError → String
  | configuration _ | unknownEntity _ => "Filtering is not available for this resource"
  | invalidValue _ fieldType value => ValueError.typeMessage fieldType.tag value
  | malformedFilter message => message
  | validationFailed report => report.message?.getD "Invalid filter"

def message : FilterError → String
  | configuration message => message
  | unknownEntity entity => "entity '" ++ entity ++ "' is not declared in the schema"
  | invalidValue field fieldType value =>
    (invalidValue field fieldType value).userMessage ++ " (field '" ++ field ++ "')"
  | malformedFilter message => message
  | validationFailed report => (validationFailed report).userMessage

def status : FilterError → Nat
  | configuration _ | unknownEntity _ => 500
  | invalidValue .. | malformedFilter _ => 400
  | validationFailed _ => 422

end FilterError

structure Response where
  status : Nat
  contentType : String
  body : Json
  deriving Repr

/-- The body names the error; for a failed validation it lists the problems beside it. -/
def FilterError.responseBody (error : FilterError) : Json :=
  match error with
  | validationFailed report =>
    .object [("error", .string "Invalid filter"), ("details", .array (report.errors.map .string))]
  | _ => .object [("error", .string error.userMessage)]

def FilterError.response (error : FilterError) : Response where
  status := error.status
  contentType := "application/json"
  body := error.responseBody

def Report.intoResult (report : Report) : Except FilterError Unit :=
  if report.isValid then .ok () else .error (.validationFailed report)

end QueryFilter
