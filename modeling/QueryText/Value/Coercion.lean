import QueryText.Error

/-!
# Coercion

A value that meets a column takes the column's declared type. Integers fit every integer type that
holds them and become doubles; a date becomes its midnight.
-/

set_option autoImplicit false

namespace QueryText.Value

/-- The value of another type that stands for the same thing, if there is one. -/
def converted? (value : Value) (target : DataType) : Option Value :=
  match value.integer? with
  | some number =>
    if target = .double then some (.double (Float.ofInt number)) else ofInteger? target number
  | none =>
    match value, target with
    | .date day, .dateTime => some (.dateTime (.midnight day))
    | _, _ => none

/-- The value as a column of type `target` holds it. Nulls fit every column, and a column of type
`object` takes every value. The error names the column by `name`. -/
def coerce (value : Value) (target : DataType) (name : String) : Except RenderError Value :=
  if value.isNull ∨ target = .object ∨ value.dataType = target then
    .ok value
  else
    match value.converted? target with
    | some converted => .ok converted
    | none => .error (.wrongType name target value.dataType)

end QueryText.Value
