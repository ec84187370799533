import QueryText.Entity
import QueryText.Expr
import QueryText.Fragment
import QueryText.Scope

/-!
# Operands

An operand of a predicate is a value, a column, or arithmetic with a column in it. Whatever touches
no column is computed at once, so `id1 + 2` is a single value when `id1` is captured.
-/

set_option autoImplicit false

namespace QueryText

/-!
## Surroundings of a predicate
-/

/-- What a predicate is read with: the captured variables, if there are any, the queried entity, if
it is known, and whether values are bound as parameters. -/
structure Context where
  scope : Option Scope := none
  entity : Option Entity := none
  useParameters : Bool := true

/-- A column. Its declared type is known when the entity is. -/
structure ResolvedColumn where
  name : String
  dataType : Option DataType
  deriving DecidableEq

namespace Context

def column (context : Context) (property : String) : Except RenderError ResolvedColumn :=
  match context.entity with
  | some entity => do
    let column ← entity.resolve property
    return ⟨column.column, some column.dataType⟩
  | none => .ok ⟨property, none⟩

def captured (context : Context) : Expr → Except RenderError Capture
  | .captured name =>
    match context.scope with
    | some scope => scope.lookup name
    | none => .error (.unknownCapture name)
  | .field base name => do
    match ← context.captured base with
    | .object members =>
      match members.get? name with
      | some member => .ok member
      | none => .error (.unknownMember base.path name)
    | .value _ => .error (.unknownMember base.path name)
  | .property _ => .error (.unsupported "Property" "member access target")
  | other => .error (.unsupported other.kind "member access target")

/-- The value of a captured variable or member, which must not be an object. -/
def captureValue (context : Context) (member : Expr) : Except RenderError Value := do
  match ← context.captured member with
  | .value value => .ok value
  | .object _ => .error (.typeMismatch member.path "value" "object")

/-- A slot for a value. A value that is to be written as a literal must have one. -/
def slot (context : Context) (base : String) (value : Value) (dataType : DataType) :
    Except RenderError Slot := do
  unless context.useParameters do value.checkLiteral
  return ⟨base, value, dataType⟩

end Context

/-!
## Classification
-/

inductive Operand where
  | value (value : Value)
  | column (column : ResolvedColumn)
  /-- Arithmetic with at least one column; `column` lends its name to the values beside it. -/
  | computed (op : ArithmeticOp) (left right : Operand) (column : ResolvedColumn)
  deriving BEq

/-- The column whose name and type an operand lends to the values it meets. -/
def Operand.column? : Operand → Option ResolvedColumn
  | .value _ => none
  | .column reference => some reference
  | .computed _ _ _ reference => some reference

def Context.operand (context : Context) : Expr → Except RenderError Operand
  | .literal value => .ok (.value value)
  | .property name => do
    let column ← context.column name
    return .column column
  | .captured name => do
    let value ← context.captureValue (.captured name)
    return .value value
  | .field base name => do
    let value ← context.captureValue (.field base name)
    return .value value
  | .arithmetic op left right => do
    let leftOperand ← context.operand left
    let rightOperand ← context.operand right
    match leftOperand, rightOperand with
    | .value leftValue, .value rightValue => do
      let value ← Value.arithmetic op leftValue rightValue
      return .value value
    | leftOperand, rightOperand =>
      match leftOperand.column?.or rightOperand.column? with
      | some column => .ok (.computed op leftOperand rightOperand column)
      | none => .error (.unsupported "Arithmetic" "operand")
  | other => .error (.unsupported other.kind "operand")

end QueryText
