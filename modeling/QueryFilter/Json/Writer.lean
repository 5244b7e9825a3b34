import QueryFilter.Json.Value

/-!
# Writing JSON

The compact text of a document: no blanks, and in a string only the quote, the backslash and the
control characters in escaped form.
-/

namespace QueryFilter.Json

def escaped (c : Char) : List Char :=
  if c = '"' then ['\\', '"']
  else if c = '\\' then ['\\', '\\']
  else if c = '\x08' then ['\\', 'b']
  else if c = '\x0c' then ['\\', 'f']
  else if c = '\n' then ['\\', 'n']
  else if c = '\r' then ['\\', 'r']
  else if c = '\t' then ['\\', 't']
  else if c.toNat < 0x20 then
    ['\\', 'u', '0', '0', Nat.digitChar (c.toNat / 16), Nat.digitChar (c.toNat % 16)]
  else [c]

def writeString (s : String) : List Char := '"' :: s.toList.flatMap escaped ++ ['"']

mutual

def write : Json → List Char
  | null => "null".toList
  | bool value => (if value then "true" else "false").toList
  | number value => value.render
  | string value => writeString value
  | array items => '[' :: writeItems items ++ [']']
  | object members => '\x7b' :: writeMembers members ++ ['\x7d']

def writeItems : List Json → List Char
  | [] => []
  | [item] => write item
  | item :: next :: rest => write item ++ ',' :: writeItems (next :: rest)

def writeMembers : List (String × Json) → List Char
  | [] => []
  | [(key, value)] => writeString key ++ ':' :: write value
  | (key, value) :: next :: rest =>
    writeString key ++ ':' :: write value ++ ',' :: writeMembers (next :: rest)

end

def render (json : Json) : String := String.ofList (write json)

end QueryFilter.Json
