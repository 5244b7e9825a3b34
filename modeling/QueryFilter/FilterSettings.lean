import QueryFilter.FilterConfig
import QueryFilter.FilterError
import QueryFilter.Json.Guided

/-!
# Settings

Settings are a JSON object that changes a configuration: they take operators away, turn
relationships on, add aliases and may replace the list of filterable fields. Every member may be
missing and no other is allowed.
-/

namespace QueryFilter

structure FilterSettings where
  entityAlias : Option String := none
  relationships : Bool := false
  removedOperators : List String := []
  aliases : Dict String := .empty
  filterableFields : Option (List String) := none
  deriving DecidableEq

namespace FilterSettings

def applyTo (settings : FilterSettings) (config : FilterConfig) : FilterConfig where
  operators := config.operators.removeAll settings.removedOperators
  aliases := config.aliases.insertAll settings.aliases.entries
  filterable := (settings.filterableFields.map .ofNames).getD config.filterable
  relationships := config.relationships || settings.relationships

/-! ### Reading -/

def recordName : String := "FilterSettings"

def fieldNames : List String :=
  ["entity_alias", "relationships", "removed_operators", "field_aliases", "filterable_fields"]

structure Draft where
  entityAlias : Option (Option String) := none
  relationships : Option Bool := none
  removedOperators : Option (List String) := none
  aliases : Option (Dict String) := none
  filterableFields : Option (Option (List String)) := none

def Draft.finish (draft : Draft) : FilterSettings where
  entityAlias := draft.entityAlias.getD none
  relationships := draft.relationships.getD false
  removedOperators := draft.removedOperators.getD []
  aliases := draft.aliases.getD .empty
  filterableFields := draft.filterableFields.getD none

def aliasReader : JsonReader (Option String) := JsonReader.optional JsonReader.readText

def namesReader : JsonReader (List String) := JsonReader.listOf JsonReader.readText

def aliasesReader : JsonReader (Dict String) := fun s =>
  (JsonReader.membersOf JsonReader.readText s).map fun (members, rest) =>
    (Dict.ofList members, rest)

def fieldsReader : JsonReader (Option (List String)) := JsonReader.optional namesReader

/-- Reads the value of a member that has not been found before. -/
def takeValue {α : Type} (name : String) (found : Option α) (reader : JsonReader α)
    (store : α → Draft) : JsonReader Draft := fun s =>
  if found.isSome then .error (.duplicateField name)
  else do
    let s ← JsonReader.readColon s
    let (value, s) ← reader s
    .ok (store value, s)

def Draft.take (draft : Draft) (key : String) : JsonReader Draft :=
  match key with
  | "entity_alias" =>
    takeValue key draft.entityAlias aliasReader fun v => { draft with entityAlias := some v }
  | "relationships" =>
    takeValue key draft.relationships JsonReader.readBool fun v =>
      { draft with relationships := some v }
  | "removed_operators" =>
    takeValue key draft.removedOperators namesReader fun v =>
      { draft with removedOperators := some v }
  | "field_aliases" =>
    takeValue key draft.aliases aliasesReader fun v => { draft with aliases := some v }
  | "filterable_fields" =>
    takeValue key draft.filterableFields fieldsReader fun v =>
      { draft with filterableFields := some v }
  | name => fun _ => .error (.unknownField name fieldNames)

/-- The members in order as a list, of which the last ones may be missing. -/
def listReader : JsonReader FilterSettings := fun s => do
  let (entityAlias, s) ← JsonReader.field aliasReader true s
  let (relationships, s) ← JsonReader.field JsonReader.readBool false s
  let (removedOperators, s) ← JsonReader.field namesReader false s
  let (aliases, s) ← JsonReader.field aliasesReader false s
  let (filterableFields, s) ← JsonReader.field fieldsReader false s
  let s ← JsonReader.endOfRecord s
  let draft : Draft :=
    { entityAlias, relationships, removedOperators, aliases, filterableFields }
  .ok (draft.finish, s)

def reader : JsonReader FilterSettings := fun s => do
  let s ← JsonReader.startOfValue s
  match s with
  | '[' :: rest => listReader rest
  | '\x7b' :: rest =>
    (JsonReader.members Draft.take rest.length true {} rest).map fun (draft, rest) =>
      (draft.finish, rest)
  | s => JsonReader.mismatch (.record recordName) s

def ofJsonText (text : String) : Except FilterError FilterSettings :=
  match JsonReader.document reader text.toList with
  | .ok settings => .ok settings
  | .error e => .error (.configuration ("invalid filter settings: " ++ e.message))

end FilterSettings

end QueryFilter
