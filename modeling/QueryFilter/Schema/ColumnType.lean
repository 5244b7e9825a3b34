import QueryFilter.Schema.FieldType

/-!
# Column types

The types a database column can be declared with, and the field type of each. A column type
without a field type of its own becomes one named by its description in small letters.
-/

namespace QueryFilter

inductive ColumnLength where
  | bounded (n : Nat)
  | max
  | unspecified
  deriving DecidableEq, Repr

/-- The units that an interval column is restricted to. -/
inductive IntervalFields where
  | year
  | month
  | day
  | hour
  | minute
  | second
  | yearToMonth
  | dayToHour
  | dayToMinute
  | dayToSecond
  | hourToMinute
  | hourToSecond
  | minuteToSecond
  deriving DecidableEq, Repr

inductive ColumnType where
  | char (length : Option Nat)
  | string (length : ColumnLength)
  | text
  | blob
  | tinyInteger
  | smallInteger
  | integer
  | bigInteger
  | tinyUnsigned
  | smallUnsigned
  | unsigned
  | bigUnsigned
  | float
  | double
  | decimal (precision : Option (Nat × Nat))
  | dateTime
  | timestamp
  | timestampWithTimeZone
  | time
  | date
  | year
  | interval (fields : Option IntervalFields) (precision : Option Nat)
  | binary (length : Nat)
  | varBinary (length : ColumnLength)
  | bit (length : Option Nat)
  | varBit (length : Nat)
  | boolean
  | money (precision : Option (Nat × Nat))
  | json
  | jsonBinary
  | uuid
  | custom (name : String)
  | enumeration (name : String) (variants : List String)
  | array (element : ColumnType)
  | vector (length : Option Nat)
  | cidr
  | inet
  | macAddress
  | labelTree
  deriving DecidableEq, Repr

def describeCall (name arguments : String) : String := name ++ "(" ++ arguments ++ ")"

def ColumnLength.describe : ColumnLength → String
  | bounded n => describeCall "N" (toString n)
  | max => "Max"
  | unspecified => "None"

def IntervalFields.describe : IntervalFields → String
  | year => "Year"
  | month => "Month"
  | day => "Day"
  | hour => "Hour"
  | minute => "Minute"
  | second => "Second"
  | yearToMonth => "YearToMonth"
  | dayToHour => "DayToHour"
  | dayToMinute => "DayToMinute"
  | dayToSecond => "DayToSecond"
  | hourToMinute => "HourToMinute"
  | hourToSecond => "HourToSecond"
  | minuteToSecond => "MinuteToSecond"

namespace ColumnType

def describeOption (argument : Option String) : String :=
  match argument with
  | some argument => describeCall "Some" argument
  | none => "None"

def describePrecision (precision : Option (Nat × Nat)) : String :=
  describeOption (precision.map fun (total, places) =>
    "(" ++ toString total ++ ", " ++ toString places ++ ")")

def describeName (name : String) : String := describeCall "SeaRc" name

/-- The type with its arguments. Names stand in it as they are. -/
def describe : ColumnType → String
  | char length => describeCall "Char" (describeOption (length.map toString))
  | string length => describeCall "String" length.describe
  | text => "Text"
  | blob => "Blob"
  | tinyInteger => "TinyInteger"
  | smallInteger => "SmallInteger"
  | integer => "Integer"
  | bigInteger => "BigInteger"
  | tinyUnsigned => "TinyUnsigned"
  | smallUnsigned => "SmallUnsigned"
  | unsigned => "Unsigned"
  | bigUnsigned => "BigUnsigned"
  | float => "Float"
  | double => "Double"
  | decimal precision => describeCall "Decimal" (describePrecision precision)
  | dateTime => "DateTime"
  | timestamp => "Timestamp"
  | timestampWithTimeZone => "TimestampWithTimeZone"
  | time => "Time"
  | date => "Date"
  | year => "Year"
  | interval fields precision =>
    describeCall "Interval" (describeOption (fields.map IntervalFields.describe) ++ ", " ++
      describeOption (precision.map toString))
  | binary length => describeCall "Binary" (toString length)
  | varBinary length => describeCall "VarBinary" length.describe
  | bit length => describeCall "Bit" (describeOption (length.map toString))
  | varBit length => describeCall "VarBit" (toString length)
  | boolean => "Boolean"
  | money precision => describeCall "Money" (describePrecision precision)
  | json => "Json"
  | jsonBinary => "JsonBinary"
  | uuid => "Uuid"
  | custom name => describeCall "Custom" (describeName name)
  | enumeration name variants =>
    "Enum \x7b name: " ++ describeName name ++ ", variants: [" ++
      ", ".intercalate (variants.map describeName) ++ "] \x7d"
  | array element => describeCall "Array" element.describe
  | vector length => describeCall "Vector" (describeOption (length.map toString))
  | cidr => "Cidr"
  | inet => "Inet"
  | macAddress => "MacAddr"
  | labelTree => "LTree"

def fieldType : ColumnType → FieldType
  | tinyInteger | smallInteger | integer | tinyUnsigned | smallUnsigned | unsigned => .integer
  | bigInteger | bigUnsigned => .bigInteger
  | float | double => .float
  | boolean => .boolean
  | char _ | string _ | text | enumeration .. => .string
  | date => .date
  | dateTime | timestamp | timestampWithTimeZone => .dateTime
  | uuid => .uuid
  | other => .other (Text.lowercased other.describe)

end ColumnType

end QueryFilter
