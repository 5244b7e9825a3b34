import QueryFilter.Json.Reader

/-!
# Reading what is expected

Readers that know the form of what they read and say at once what stands there instead. A list or
an object in a wrong place is named by its first character alone; any other value is read first.
-/

namespace QueryFilter.JsonReader

/-- The error of a text that starts with another value than the expected one. -/
def mismatch {α : Type} (expected : JsonExpected) (s : List Char) : Except JsonError α :=
  let instead (found : JsonFound) : Except JsonError α := .error (.mismatch found expected)
  match s with
  | '[' :: _ => instead .sequence
  | '\x7b' :: _ => instead .map
  | s => do
    let (value, _) ← readWith none s
    instead (.ofJson value)

def startOfValue (s : List Char) : Except JsonError (List Char) :=
  match skipBlanks s with
  | [] => refuse .endInValue
  | s => .ok s

def readBool : JsonReader Bool := fun s => do
  let s ← startOfValue s
  match s with
  | 't' :: rest => (expectWord "rue".toList rest).map fun rest => (true, rest)
  | 'f' :: rest => (expectWord "alse".toList rest).map fun rest => (false, rest)
  | s => mismatch .boolean s

def readTextAs (expected : JsonExpected) : JsonReader String := fun s => do
  let s ← startOfValue s
  match s with
  | '"' :: rest => readString rest
  | s => mismatch expected s

def readText : JsonReader String := readTextAs .string

def optional {α : Type} (reader : JsonReader α) : JsonReader (Option α) := fun s =>
  match skipBlanks s with
  | 'n' :: rest => (expectWord "ull".toList rest).map fun rest => (none, rest)
  | s => (reader s).map fun (value, rest) => (some value, rest)

def listOf {α : Type} (item : JsonReader α) : JsonReader (List α) := fun s => do
  let s ← startOfValue s
  match s with
  | '[' :: rest => elements item rest.length true rest
  | s => mismatch .sequence s

/-- The members of an object in order, repeated keys included. -/
def membersOf {α : Type} (item : JsonReader α) : JsonReader (List (String × α)) := fun s => do
  let s ← startOfValue s
  match s with
  | '\x7b' :: rest =>
    (members (collect item) rest.length true [] rest).map fun (collected, rest) =>
      (collected.reverse, rest)
  | s => mismatch .map s

/-- The next item of a list that stands for a record, if there is one. -/
def field {α : Type} (item : JsonReader α) (first : Bool) : JsonReader (Option α) := fun s =>
  match skipBlanks s with
  | [] => refuse .endInList
  | ']' :: rest => .ok (none, ']' :: rest)
  | s => do
    let s ← nextItem first s
    let (x, s) ← item s
    .ok (some x, s)

/-- The end of a list that stands for a record, all of whose fields have been read. -/
def endOfRecord (s : List Char) : Except JsonError (List Char) :=
  match skipBlanks s with
  | [] => refuse .endInList
  | ']' :: rest => .ok rest
  | ',' :: rest =>
    match skipBlanks rest with
    | ']' :: _ => refuse .trailingComma
    | _ => refuse .trailingCharacters
  | _ => refuse .trailingCharacters

end QueryFilter.JsonReader
