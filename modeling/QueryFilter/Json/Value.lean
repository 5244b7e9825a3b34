import QueryFilter.Binary64.Printer
import QueryFilter.Decimal.Integer

/-!
# JSON values

A JSON document as it is written: an object lists its members in order and may repeat a key.
`Json.normalize` settles repetitions: a repeated key keeps its first place and takes its last value.
-/

namespace QueryFilter

/-- A number is an integer of 64 bits, with or without a sign, or a double-precision number. -/
inductive JsonNumber where
  | int (value : Int)
  | float (value : Binary64)
  deriving DecidableEq, Repr

def JsonNumber.render : JsonNumber → List Char
  | int value => Decimal.render value
  | float value => value.scientific

inductive Json where
  | null
  | bool (value : Bool)
  | number (value : JsonNumber)
  | string (value : String)
  | array (items : List Json)
  | object (members : List (String × Json))
  deriving Repr, BEq, Inhabited

namespace Json

/-- Gives `key` the value `value`, in its place if it has one and at the end if not. -/
def setMember {α : Type} (key : String) (value : α) : List (String × α) → List (String × α)
  | [] => [(key, value)]
  | (k, v) :: rest => if k = key then (key, value) :: rest else (k, v) :: setMember key value rest

def settle {α : Type} (members : List (String × α)) : List (String × α) :=
  members.foldl (fun settled (key, value) => setMember key value settled) []

mutual

def normalize : Json → Json
  | null => null
  | bool value => bool value
  | number value => number value
  | string value => string value
  | array items => array (normalizeItems items)
  | object members => object (settle (normalizeMembers members))

def normalizeItems : List Json → List Json
  | [] => []
  | item :: rest => normalize item :: normalizeItems rest

def normalizeMembers : List (String × Json) → List (String × Json)
  | [] => []
  | (key, value) :: rest => (key, normalize value) :: normalizeMembers rest

end

def member? (members : List (String × Json)) (key : String) : Option Json := members.lookup key

end Json

end QueryFilter
