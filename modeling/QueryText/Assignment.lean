import QueryText.Value.Basic

/-!
# Assignments

What an INSERT or an UPDATE does to a column. A list of assignments is rendered in its order.
-/

set_option autoImplicit false

namespace QueryText

inductive AssignmentOp where
  | assign
  /-- Store the current time; the value is not used. -/
  | now
  | add
  | subtract
  deriving DecidableEq

namespace AssignmentOp

def name : AssignmentOp → String
  | .assign => "None"
  | .now => "Now"
  | .add => "Add"
  | .subtract => "Subtract"

end AssignmentOp

/-- An operation on the column that `key` names. -/
structure Assignment where
  key : String
  op : AssignmentOp
  value : Value
  dataType : DataType
  deriving BEq

namespace Assignment

def arithmetic (key : String) (op : AssignmentOp) (value : Value) : Assignment :=
  ⟨key, op, value, value.dataType⟩

def set (key : String) (value : Value) : Assignment :=
  .arithmetic key .assign value

def typed (key : String) (value : Value) (dataType : DataType) : Assignment :=
  ⟨key, .assign, value, dataType⟩

def now (key : String) : Assignment :=
  ⟨key, .now, .null, .dateTime⟩

def add (key : String) (value : Value) : Assignment :=
  .arithmetic key .add value

def subtract (key : String) (value : Value) : Assignment :=
  .arithmetic key .subtract value

end Assignment

end QueryText
