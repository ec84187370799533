import QueryText.Value.Basic

/-!
# Errors

Why a statement could not be rendered. No text has been produced when one of these is returned.
-/

set_option autoImplicit false

namespace QueryText

inductive RenderError where
  /-- An expression stands where its kind has no meaning. -/
  | unsupported (kind position : String)
  /-- The database product lacks a feature. -/
  | unsupportedByDialect (dialect feature : String)
  /-- A captured variable has no value. -/
  | unknownCapture (name : String)
  /-- A captured object lacks a member, or is no object. -/
  | unknownMember (object member : String)
  /-- An entity maps neither a property nor a column of this name. -/
  | unknownProperty (entity property : String)
  /-- A value of one type stands where another is declared. -/
  | typeMismatch (target expected found : String)
  /-- Host arithmetic has no result. -/
  | arithmetic (message : String)
  /-- A statement is not complete, or holds a value that its text cannot express. -/
  | validation (message : String)
  /-- A configuration text cannot be read. -/
  | config (message : String)
  deriving DecidableEq

namespace RenderError

def message : RenderError → String
  | unsupported kind position =>
    "Unsupported expression: " ++ kind ++ " is not valid as " ++ position
  | unsupportedByDialect dialect feature =>
    feature ++ " is not supported by the " ++ dialect ++ " dialect"
  | unknownCapture name => "Unknown captured variable: " ++ name
  | unknownMember object member =>
    "Captured object '" ++ object ++ "' has no member '" ++ member ++ "'"
  | unknownProperty entity property =>
    "Entity '" ++ entity ++ "' has no property or column '" ++ property ++ "'"
  | typeMismatch target expected found =>
    "Type mismatch on '" ++ target ++ "': expected " ++ expected ++ ", found " ++ found
  | arithmetic message => "Arithmetic error: " ++ message
  | validation message => "Validation error: " ++ message
  | config message => "Config error: " ++ message

def isMisplaced : RenderError → Bool
  | unsupported _ _ => true
  | _ => false

def lacksFeature : RenderError → Bool
  | unsupportedByDialect _ _ => true
  | _ => false

def isCaptureFault : RenderError → Bool
  | unknownCapture _ | unknownMember _ _ | typeMismatch _ _ _ => true
  | _ => false

/-- A value of the type `found` where `expected` is declared. -/
def wrongType (target : String) (expected found : DataType) : RenderError :=
  .typeMismatch target expected.name found.name

def divisionByZero : RenderError :=
  .arithmetic "division by zero"

def integerOverflow (symbol : String) : RenderError :=
  .arithmetic ("integer overflow in '" ++ symbol ++ "'")

def wrongOperands (symbol : String) (left right : DataType) : RenderError :=
  .arithmetic ("cannot apply '" ++ symbol ++ "' to " ++ left.name ++ " and " ++ right.name)

def noLiteral (number : Float) : RenderError :=
  .validation ("float " ++ Decimal.doubleText number ++ " cannot be written as a SQL literal")

end RenderError

end QueryText
