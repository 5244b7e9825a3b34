import QueryFilter.Json.Guided

/-!
# Documents written inside documents

An object whose first key is `embeddedKey` stands for the document whose text is the string under
that key. `Json.readExpanded` reads each such document in the place of its object.
-/

namespace QueryFilter

namespace JsonReader

def embeddedKey : String := "$serde_json::private::RawValue"

/-- The rest of an object behind its first key, if that is the reserved one. -/
def behindEmbeddedKey? (s : List Char) : Option (List Char) :=
  match skipBlanks s with
  | '"' :: rest =>
    match readString rest with
    | .ok (key, rest) => if key = embeddedKey then some rest else none
    | .error _ => none
  | _ => none

def endOfObject (s : List Char) : Except JsonError (List Char) :=
  match skipBlanks s with
  | [] => refuse .endInObject
  | '\x7d' :: rest => .ok rest
  | ',' :: _ => refuse .trailingComma
  | _ => refuse .trailingCharacters

/-- An object behind its reserved key, as the document that `parse` makes of the text there. -/
def readEmbedded (parse : List Char → Except JsonError Json) : JsonReader Json := fun s => do
  let s ← readColon s
  let (text, s) ← readTextAs .embedded s
  let value ← parse text.toList
  let s ← endOfObject s
  .ok (value, s)

/-- As `readWith`, but an object with the reserved key stands for a document. -/
def expandWith (parse : List Char → Except JsonError Json) (inner? : Option (JsonReader Json)) :
    JsonReader Json := fun s =>
  match skipBlanks s, inner? with
  | '\x7b' :: rest, some _ =>
    match behindEmbeddedKey? rest with
    | some rest => readEmbedded parse rest
    | none => readWith inner? s
  | _, _ => readWith inner? s

theorem expandWith_none (parse : List Char → Except JsonError Json) :
    expandWith parse none = readWith none := by
  funext s
  unfold expandWith
  split <;> simp_all

/-- As `readValue`, but an object with the reserved key stands for a document. -/
def expandValue (parse : List Char → Except JsonError Json) : (depth : Nat) → JsonReader Json
  | 0 => expandWith parse none
  | depth + 1 => expandWith parse (some (expandValue parse depth))

end JsonReader

namespace Json

/-- A document in which documents are embedded at most `rounds` deep. -/
def expandDocument : (rounds : Nat) → List Char → Except JsonError Json
  | 0, _ => JsonReader.refuse .endInValue
  | rounds + 1, s =>
    JsonReader.document (JsonReader.expandValue (expandDocument rounds) greatestDepth) s

/-- An embedded text is shorter than the one around it, so the length bounds how deep they go. -/
def readExpanded (s : List Char) : Except JsonError Json := expandDocument (s.length + 1) s

end Json

end QueryFilter
