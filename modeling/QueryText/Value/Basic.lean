import QueryText.Calendar.DateTime
import QueryText.Decimal.DoubleText
import QueryText.Uuid

/-!
# Values

The values that a statement can hold, and the types that columns and parameters are declared with.
-/

set_option autoImplicit false

namespace QueryText

/-!
## Declared types
-/

/-- The declared type of a column or a parameter. `object` stands for no type in particular: a
null without a column has it. -/
inductive DataType where
  | boolean
  | int16
  | int32
  | int64
  | double
  | string
  | dateTime
  | date
  | guid
  | binary
  | object
  deriving DecidableEq

namespace DataType

def all : List DataType :=
  [.boolean, .int16, .int32, .int64, .double, .string, .dateTime, .date, .guid, .binary, .object]

def name : DataType → String
  | .boolean => "Boolean"
  | .int16 => "Int16"
  | .int32 => "Int32"
  | .int64 => "Int64"
  | .double => "Double"
  | .string => "String"
  | .dateTime => "DateTime"
  | .date => "Date"
  | .guid => "Guid"
  | .binary => "Binary"
  | .object => "Object"

def ofName? (name : String) : Option DataType :=
  all.find? fun dataType => dataType.name == name

def isInteger : DataType → Bool
  | .int16 | .int32 | .int64 => true
  | _ => false

def holds (dataType : DataType) (number : Int) : Bool :=
  match dataType with
  | .int16 => -32768 ≤ number && number ≤ 32767
  | .int32 => -2147483648 ≤ number && number ≤ 2147483647
  | .int64 => -9223372036854775808 ≤ number && number ≤ 9223372036854775807
  | _ => false

end DataType

/-!
## Values
-/

/-- A value that is bound as a parameter or written into the text of a statement. -/
inductive Value where
  | null
  | bool (value : Bool)
  | int16 (value : Int16)
  | int32 (value : Int32)
  | int64 (value : Int64)
  | double (value : Float)
  | text (value : String)
  | dateTime (value : DateTime)
  | date (value : Date)
  | uuid (value : Uuid)
  | bytes (value : List UInt8)
  deriving BEq

namespace Value

def dataType : Value → DataType
  | .null => .object
  | .bool _ => .boolean
  | .int16 _ => .int16
  | .int32 _ => .int32
  | .int64 _ => .int64
  | .double _ => .double
  | .text _ => .string
  | .dateTime _ => .dateTime
  | .date _ => .date
  | .uuid _ => .guid
  | .bytes _ => .binary

def isNull : Value → Bool
  | .null => true
  | _ => false

def integer? : Value → Option Int
  | .int16 value => some value.toInt
  | .int32 value => some value.toInt
  | .int64 value => some value.toInt
  | _ => none

/-- The double that a number denotes; an integer is rounded to the nearest. -/
def double? : Value → Option Float
  | .double value => some value
  | value => value.integer?.map Float.ofInt

def text? : Value → Option String
  | .text value => some value
  | _ => none

/-- The value of an integer type that denotes an integer, if the type holds it. -/
def ofInteger? (dataType : DataType) (number : Int) : Option Value :=
  if dataType.holds number then
    match dataType with
    | .int16 => some (.int16 (Int16.ofInt number))
    | .int32 => some (.int32 (Int32.ofInt number))
    | .int64 => some (.int64 (Int64.ofInt number))
    | _ => none
  else none

/-!
## Text
-/

/-- The text of a value as it is shown and concatenated; it is not a literal. -/
def display : Value → String
  | .null => "<NULL>"
  | .bool value => if value then "true" else "false"
  | .int16 value => value.toInt.repr
  | .int32 value => value.toInt.repr
  | .int64 value => value.toInt.repr
  | .double value => Decimal.doubleText value
  | .text value => value
  | .dateTime value => value.text
  | .date value => value.text
  | .uuid value => value.text
  | .bytes value => "0x" ++ String.ofList (Text.hexOfBytes value)

end Value

end QueryText
