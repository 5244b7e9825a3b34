import QueryFilter.FilterError
import QueryFilter.FilterMap
import QueryFilter.Json.Embedded
import QueryFilter.Json.Writer

/-!
# Filter maps as JSON

A filter map is written as an object of strings and objects. There are two readers: `ofJsonText`
takes numbers, booleans and lists of scalars as the texts they stand for, passes over nulls and
reads embedded documents in their places; `ofStrictText` takes only what the writer writes.
-/

namespace QueryFilter.FilterMap

mutual

def members : FilterMap → List (String × Json)
  | empty => []
  | text key raw rest => (key, .string raw) :: rest.members
  | nested key inner rest => (key, inner.toJson) :: rest.members

def toJson (filters : FilterMap) : Json := .object filters.members

end

def toJsonText (filters : FilterMap) : String := filters.toJson.render

/-! ### The lenient reader -/

/-- The text a scalar stands for. -/
def scalarText? : Json → Option String
  | .string value => some value
  | .number value => some (String.ofList value.render)
  | .bool value => some (Scalar.renderBool value)
  | .null | .array _ | .object _ => none

def listMessage (key : String) : String :=
  "filter '" ++ key ++ "' must be a list of scalar values"

/-- The texts of the items of a list, joined by commas. -/
def listText (key : String) (items : List Json) : Except FilterError String :=
  match items.mapM scalarText? with
  | some texts => .ok (",".intercalate texts)
  | none => .error (.malformedFilter (listMessage key))

mutual

/-- The entry for a member, which a null does not make. -/
def entryOfJson (key : String) : Json → Except FilterError (Option FilterEntry)
  | .null => .ok none
  | .object members => (ofMembers members).map fun inner => some (.nested inner)
  | .array items => (listText key items).map fun raw => some (.text raw)
  | .string value => .ok (some (.text value))
  | .number value => .ok (some (.text (String.ofList value.render)))
  | .bool value => .ok (some (.text (Scalar.renderBool value)))

def ofMembers : List (String × Json) → Except FilterError FilterMap
  | [] => .ok empty
  | (key, value) :: rest => do
    let entry? ← entryOfJson key value
    let filters ← ofMembers rest
    match entry? with
    | some entry => .ok (cons key entry filters)
    | none => .ok filters

end

def ofJson (json : Json) : Except FilterError FilterMap :=
  match json.normalize with
  | .object members => ofMembers members
  | _ => .error (.malformedFilter "filter must be a JSON object")

def ofJsonText (text : String) : Except FilterError FilterMap :=
  match Json.readExpanded text.toList with
  | .ok json => ofJson json
  | .error e => .error (.malformedFilter ("filter is not valid JSON: " ++ e.message))

/-! ### The strict reader -/

mutual

/-- A string or an object of such entries. -/
def strictEntry? : Json → Option FilterEntry
  | .string value => some (.text value)
  | .object members => (strictEntries? members).map fun entries =>
      .nested (empty.insertAll entries)
  | .null | .bool _ | .number _ | .array _ => none

def strictEntries? : List (String × Json) → Option (List (String × FilterEntry))
  | [] => some []
  | (key, value) :: rest =>
    match strictEntry? value, strictEntries? rest with
    | some entry, some entries => some ((key, entry) :: entries)
    | _, _ => none

end

/-- Takes up a member, whose value is read as a whole before it is judged. -/
def strictMember (filters : FilterMap) (key : String) : JsonReader FilterMap := fun s => do
  let s ← JsonReader.readColon s
  let (value, s) ← JsonReader.readValue (Json.greatestDepth - 1) s
  match strictEntry? value with
  | some entry => .ok (filters.insert key entry, s)
  | none => .error (.noVariant "FilterEntry")

def strictReader : JsonReader FilterMap := fun s => do
  let s ← JsonReader.startOfValue s
  match s with
  | '\x7b' :: rest => JsonReader.members strictMember rest.length true empty rest
  | s => JsonReader.mismatch .map s

def ofStrictText (text : String) : Except JsonError FilterMap :=
  JsonReader.document strictReader text.toList

end QueryFilter.FilterMap
