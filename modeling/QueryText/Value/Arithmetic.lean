import QueryText.Error

/-!
# Host arithmetic

Arithmetic on values that touches no column is carried out before the statement is written. A null
operand makes the result null. Integers are computed in 64 bits, and the result has the wider of
the two operand types; with a double the result is a double. A sum with a text is their
concatenation.
-/

set_option autoImplicit false

namespace QueryText

inductive ArithmeticOp where
  | add
  | subtract
  | multiply
  | divide
  deriving DecidableEq

namespace ArithmeticOp

def symbol : ArithmeticOp → String
  | .add => "+"
  | .subtract => "-"
  | .multiply => "*"
  | .divide => "/"

/-- The exact result on integers; a quotient is cut off toward zero. -/
def exact (op : ArithmeticOp) (left right : Int) : Int :=
  match op with
  | .add => left + right
  | .subtract => left - right
  | .multiply => left * right
  | .divide => left.tdiv right

def rounded (op : ArithmeticOp) (left right : Float) : Float :=
  match op with
  | .add => left + right
  | .subtract => left - right
  | .multiply => left * right
  | .divide => left / right

end ArithmeticOp

def DataType.widerOf (left right : DataType) : DataType :=
  if left = .int64 ∨ right = .int64 then .int64
  else if left = .int32 ∨ right = .int32 then .int32
  else .int16

namespace Value

def integerResult (op : ArithmeticOp) (left right : Int) : Except RenderError Int :=
  if op = .divide ∧ right = 0 then .error .divisionByZero
  else if DataType.int64.holds (op.exact left right) then .ok (op.exact left right)
  else .error (.integerOverflow op.symbol)

def narrow (op : ArithmeticOp) (dataType : DataType) (number : Int) : Except RenderError Value :=
  match ofInteger? dataType number with
  | some value => .ok value
  | none => .error (.integerOverflow op.symbol)

def doubleResult (op : ArithmeticOp) (left right : Float) : Except RenderError Float :=
  if op = .divide ∧ right == 0 then .error .divisionByZero
  else .ok (op.rounded left right)

def textResult (op : ArithmeticOp) (left right : Value) : Except RenderError Value :=
  if op = .add ∧ (left.dataType = .string ∨ right.dataType = .string) then
    .ok (.text (left.display ++ right.display))
  else
    .error (.wrongOperands op.symbol left.dataType right.dataType)

/-- The value of `left op right`. -/
def arithmetic (op : ArithmeticOp) (left right : Value) : Except RenderError Value :=
  if left.isNull ∨ right.isNull then .ok .null
  else
    match left.integer?, right.integer? with
    | some leftNumber, some rightNumber => do
      let number ← integerResult op leftNumber rightNumber
      narrow op (left.dataType.widerOf right.dataType) number
    | _, _ =>
      match left.double?, right.double? with
      | some leftNumber, some rightNumber => do
        let number ← doubleResult op leftNumber rightNumber
        return .double number
      | _, _ => textResult op left right

end Value

end QueryText
