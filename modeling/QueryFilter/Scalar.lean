import QueryFilter.Binary64.Literal
import QueryFilter.Binary64.Printer
import QueryFilter.Calendar.Reading
import QueryFilter.Schema.FieldType
import QueryFilter.Uuid

/-!
# Scalars

A scalar is one typed value of a filter. `Scalar.ofText?` reads a text as a value of a field type
and `Scalar.render` writes it.
-/

namespace QueryFilter

inductive Scalar where
  | int (value : Int)
  /-- An integer above the greatest `int`. -/
  | bigUnsigned (value : Nat)
  | float (value : Binary64)
  | bool (value : Bool)
  | text (value : String)
  | date (value : Calendar.Date)
  | dateTime (value : Calendar.DateTime)
  | uuid (value : Uuid)
  deriving DecidableEq

namespace Scalar

def leastInt : Int := -9223372036854775808

def greatestInt : Int := 9223372036854775807

def greatestUnsigned : Int := 18446744073709551615

def renderBool (b : Bool) : String := if b then "true" else "false"

def render : Scalar → String
  | int value => String.ofList (Decimal.render value)
  | bigUnsigned value => String.ofList (Decimal.render value)
  | float value => String.ofList value.positional
  | bool value => renderBool value
  | text value => value
  | date value => String.ofList value.render
  | dateTime value => String.ofList value.render
  | uuid value => String.ofList value.render

def integer? (s : List Char) : Option Scalar :=
  ((Decimal.integer? s).filter fun n => leastInt ≤ n ∧ n ≤ greatestInt).map .int

def unsigned? (s : List Char) : Option Scalar :=
  ((Decimal.unsigned? s).filter fun n : Nat => (n : Int) ≤ greatestUnsigned).map .bigUnsigned

/-- An integer in the range of `int` or else in that of `bigUnsigned`. -/
def bigInteger? (s : List Char) : Option Scalar := (integer? s).or (unsigned? s)

def boolean? (s : List Char) : Option Scalar :=
  let word := Text.lowercase s
  if word = "true".toList ∨ word = "1".toList then some (.bool true)
  else if word = "false".toList ∨ word = "0".toList then some (.bool false)
  else none

/-- A text as a value of the type, if it is one. -/
def ofText? (fieldType : FieldType) (s : List Char) : Option Scalar :=
  match fieldType with
  | .integer => integer? s
  | .bigInteger => bigInteger? s
  | .float => (Binary64.literal? s).map .float
  | .boolean => boolean? s
  | .date => (Calendar.date? s).map .date
  | .dateTime => (Calendar.dateTime? s).map .dateTime
  | .uuid => (Uuid.ofText? s).map .uuid
  | .string | .other _ => some (.text (String.ofList s))

end Scalar

end QueryFilter
