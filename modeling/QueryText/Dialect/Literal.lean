import QueryText.Dialect.Identifier

/-!
# Literals

How a value is written into the text of a statement instead of being bound. Doubles that are
infinite or not a number have no literal.
-/

set_option autoImplicit false

namespace QueryText

def Value.hasLiteral : Value → Bool
  | .double number => Decimal.isFinite number
  | _ => true

namespace Dialect

/-- The characters of a text between its quotes. A quote is written twice, and in MySql a
backslash too. -/
def escaped (dialect : Dialect) : List Char → List Char
  | [] => []
  | character :: rest =>
    if character = '\'' then '\'' :: '\'' :: dialect.escaped rest
    else if character = '\\' ∧ dialect = .mySql then '\\' :: '\\' :: dialect.escaped rest
    else character :: dialect.escaped rest

/-- A text in quotes; SQL Server marks it as Unicode. -/
def quotedText (dialect : Dialect) (text : String) : String :=
  String.ofList <|
    (if dialect = .sqlServer then ['N'] else []) ++ '\'' :: dialect.escaped text.toList ++ ['\'']

/-- A truth value; only PostgreSQL has words for it. -/
def boolLiteral (dialect : Dialect) (value : Bool) : String :=
  if dialect = .postgreSql then if value then "TRUE" else "FALSE"
  else if value then "1" else "0"

/-- A date or a moment from its text; Oracle reads it by a given format. -/
def dateLiteral (dialect : Dialect) (text format : String) : String :=
  if dialect = .oracle then "TO_DATE('" ++ text ++ "','" ++ format ++ "')"
  else "'" ++ text ++ "'"

def bytesLiteral (dialect : Dialect) (bytes : List UInt8) : String :=
  let digits := String.ofList (Text.hexOfBytes bytes)
  match dialect with
  | .sqlServer => "0x" ++ digits
  | .postgreSql => "'\\x" ++ digits ++ "'"
  | _ => "X'" ++ digits ++ "'"

def literalText (dialect : Dialect) : Value → String
  | .null => "NULL"
  | .bool value => dialect.boolLiteral value
  | .int16 value => value.toInt.repr
  | .int32 value => value.toInt.repr
  | .int64 value => value.toInt.repr
  | .double value => Decimal.doubleText value
  | .text value => dialect.quotedText value
  | .dateTime value => dialect.dateLiteral value.text "YYYY-MM-DD HH24:MI:SS"
  | .date value => dialect.dateLiteral value.text "YYYY-MM-DD"
  | .uuid value => "'" ++ value.text ++ "'"
  | .bytes value => dialect.bytesLiteral value

end Dialect

def Value.checkLiteral : Value → Except RenderError Unit
  | .double number => if Decimal.isFinite number then .ok () else .error (.noLiteral number)
  | _ => .ok ()

def Dialect.literal (dialect : Dialect) (value : Value) : Except RenderError String := do
  value.checkLiteral
  return dialect.literalText value

end QueryText
