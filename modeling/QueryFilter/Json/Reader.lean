import QueryFilter.Json.Number

/-!
# Reading JSON

A reader takes a value from the front of a text and leaves the rest. `Json.read` takes a whole text
as one document, in which arrays and objects may nest to a given depth. `elements` and `members` are
the list and object forms for any kind of item, and take the length of the text as a bound on their
rounds: each round takes at least one character.
-/

namespace QueryFilter

/-- The value that a text starts with, and the rest of the text. -/
abbrev JsonReader (α : Type) := List Char → Except JsonError (α × List Char)

namespace JsonReader

def refuse {α : Type} (cause : SyntaxError) : Except JsonError α := .error (.malformed cause)

def isJsonBlank (c : Char) : Bool := c == ' ' || c == '\n' || c == '\t' || c == '\r'

def skipBlanks (s : List Char) : List Char := s.dropWhile isJsonBlank

def expectWord : (word : List Char) → List Char → Except JsonError (List Char)
  | [], s => .ok s
  | _ :: _, [] => refuse .endInValue
  | c :: word, d :: s => if c = d then expectWord word s else refuse .wordExpected

/-! ### Strings -/

def simpleEscape? (c : Char) : Option Char :=
  if c = '"' ∨ c = '\\' ∨ c = '/' then some c
  else if c = 'b' then some '\x08'
  else if c = 'f' then some '\x0c'
  else if c = 'n' then some '\n'
  else if c = 'r' then some '\r'
  else if c = 't' then some '\t'
  else none

def hexDigit? (c : Char) : Option Nat :=
  if '0' ≤ c ∧ c ≤ '9' then some (c.toNat - '0'.toNat)
  else if 'a' ≤ c ∧ c ≤ 'f' then some (c.toNat - 'a'.toNat + 10)
  else if 'A' ≤ c ∧ c ≤ 'F' then some (c.toNat - 'A'.toNat + 10)
  else none

def hexValue? (s : List Char) : Option Nat :=
  (s.mapM hexDigit?).map fun digits => digits.foldl (fun n d => 16 * n + d) 0

/-- A code unit of four hexadecimal digits. A text of fewer than four bytes has ended. -/
def readUnit (s : List Char) : Except JsonError (Nat × List Char) :=
  let digits := s.take 4
  if (String.ofList digits).utf8ByteSize < 4 then refuse .endInString
  else match hexValue? digits with
    | some n => .ok (n, s.drop 4)
    | none => refuse .invalidEscape

/-- The character of one code unit, or of two that form a surrogate pair. -/
def readUnits (s : List Char) : Except JsonError (Char × List Char) := do
  let (high, s) ← readUnit s
  if 0xDC00 ≤ high ∧ high ≤ 0xDFFF then refuse .loneSurrogate
  else if high < 0xD800 ∨ 0xDBFF < high then .ok (Char.ofNat high, s)
  else match s with
    | [] => refuse .endInString
    | ['\\'] => refuse .endInString
    | '\\' :: 'u' :: s => do
      let (low, s) ← readUnit s
      if low < 0xDC00 ∨ 0xDFFF < low then refuse .loneSurrogate
      else .ok (Char.ofNat ((high - 0xD800) * 0x400 + (low - 0xDC00) + 0x10000), s)
    | _ => refuse .escapeCutShort

def readChar : List Char → Except JsonError (Option Char × List Char)
  | [] => refuse .endInString
  | '"' :: rest => .ok (none, rest)
  | ['\\'] => refuse .endInString
  | '\\' :: 'u' :: rest => (readUnits rest).map fun (c, rest) => (some c, rest)
  | '\\' :: mark :: rest =>
    match simpleEscape? mark with
    | some c => .ok (some c, rest)
    | none => refuse .invalidEscape
  | c :: rest => if c.toNat < 0x20 then refuse .controlCharacter else .ok (some c, rest)

def readChars : (rounds : Nat) → List Char → Except JsonError (List Char × List Char)
  | 0, _ => refuse .endInString
  | rounds + 1, s =>
    match readChar s with
    | .error e => .error e
    | .ok (none, rest) => .ok ([], rest)
    | .ok (some c, rest) => (readChars rounds rest).map fun (cs, rest) => (c :: cs, rest)

def readString (s : List Char) : Except JsonError (String × List Char) :=
  (readChars s.length s).map fun (cs, rest) => (String.ofList cs, rest)

/-! ### Lists and objects -/

def nextItem (first : Bool) (s : List Char) : Except JsonError (List Char) :=
  if first then .ok s
  else match s with
    | ',' :: rest =>
      match skipBlanks rest with
      | [] => refuse .endInValue
      | ']' :: _ => refuse .trailingComma
      | s => .ok s
    | _ => refuse .itemEndExpected

def elements {α : Type} (item : JsonReader α) :
    (rounds : Nat) → (first : Bool) → JsonReader (List α)
  | 0, _, _ => refuse .endInList
  | rounds + 1, first, s =>
    match skipBlanks s with
    | [] => refuse .endInList
    | ']' :: rest => .ok ([], rest)
    | s => do
      let s ← nextItem first s
      let (x, s) ← item s
      let (xs, s) ← elements item rounds false s
      .ok (x :: xs, s)

def nextKey (first : Bool) (s : List Char) : Except JsonError (String × List Char) :=
  if first then
    match s with
    | '"' :: rest => readString rest
    | _ => refuse .keyNotString
  else match s with
    | ',' :: rest =>
      match skipBlanks rest with
      | [] => refuse .endInValue
      | '"' :: rest => readString rest
      | '\x7d' :: _ => refuse .trailingComma
      | _ => refuse .keyNotString
    | _ => refuse .memberEndExpected

def readColon (s : List Char) : Except JsonError (List Char) :=
  match skipBlanks s with
  | [] => refuse .endInObject
  | ':' :: rest => .ok rest
  | _ => refuse .colonExpected

/-- The members of an object up to its closing brace, each taken up by `member` with its key. -/
def members {σ : Type} (member : σ → String → JsonReader σ) :
    (rounds : Nat) → (first : Bool) → σ → JsonReader σ
  | 0, _, _, _ => refuse .endInObject
  | rounds + 1, first, state, s =>
    match skipBlanks s with
    | [] => refuse .endInObject
    | '\x7d' :: rest => .ok (state, rest)
    | s => do
      let (key, s) ← nextKey first s
      let (state, s) ← member state key s
      members member rounds false state s

/-- Adds a member whose value `item` reads; the last one comes first. -/
def collect {α : Type} (item : JsonReader α) (collected : List (String × α)) (key : String) :
    JsonReader (List (String × α)) := fun s => do
  let s ← readColon s
  let (value, s) ← item s
  .ok ((key, value) :: collected, s)

/-! ### Values -/

def readNumber (s : List Char) : Except JsonError (JsonNumber × List Char) :=
  match s with
  | '-' :: rest => JsonNumber.read true rest
  | s => JsonNumber.read false s

/-- A value whose items and members are read by `inner?`, which is missing at the last depth. -/
def readWith (inner? : Option (JsonReader Json)) : JsonReader Json := fun s =>
  match skipBlanks s with
  | [] => refuse .endInValue
  | 'n' :: rest => (expectWord "ull".toList rest).map fun rest => (.null, rest)
  | 't' :: rest => (expectWord "rue".toList rest).map fun rest => (.bool true, rest)
  | 'f' :: rest => (expectWord "alse".toList rest).map fun rest => (.bool false, rest)
  | '"' :: rest => (readString rest).map fun (value, rest) => (.string value, rest)
  | '[' :: rest =>
    match inner? with
    | none => refuse .nestedTooDeep
    | some inner =>
      (elements inner rest.length true rest).map fun (items, rest) => (.array items, rest)
  | '\x7b' :: rest =>
    match inner? with
    | none => refuse .nestedTooDeep
    | some inner =>
      (members (collect inner) rest.length true [] rest).map fun (collected, rest) =>
        (.object collected.reverse, rest)
  | c :: rest =>
    if c = '-' ∨ c.isDigit then
      (readNumber (c :: rest)).map fun (value, rest) => (.number value, rest)
    else refuse .valueExpected

/-- A value in which arrays and objects nest to `depth` at most. -/
def readValue : (depth : Nat) → JsonReader Json
  | 0 => readWith none
  | depth + 1 => readWith (some (readValue depth))

def document {α : Type} (reader : JsonReader α) (s : List Char) : Except JsonError α := do
  let (value, rest) ← reader s
  if skipBlanks rest = [] then .ok value else refuse .trailingCharacters

end JsonReader

namespace Json

def greatestDepth : Nat := 127

def read (s : List Char) : Except JsonError Json :=
  JsonReader.document (JsonReader.readValue greatestDepth) s

end Json

end QueryFilter
