import QueryText.Error

/-!
# Host comparison

Comparisons between values that touch no column are decided before the statement is written.
Integers compare exactly with each other and as doubles with doubles, texts by code point, byte
strings byte by byte. Two nulls are equal, and a null differs from everything else.
-/

set_option autoImplicit false

namespace QueryText

inductive Relation where
  | eq
  | ne
  | lt
  | le
  | gt
  | ge
  deriving DecidableEq

namespace Relation

def symbol : Relation → String
  | .eq => "="
  | .ne => "<>"
  | .lt => "<"
  | .le => "<="
  | .gt => ">"
  | .ge => ">="

def accepts (op : Relation) (ordering : Ordering) : Bool :=
  match op with
  | .eq => ordering == .eq
  | .ne => ordering != .eq
  | .lt => ordering == .lt
  | .le => ordering != .gt
  | .gt => ordering == .gt
  | .ge => ordering != .lt

end Relation

namespace Value

/-- The order of two doubles; a not-a-number has none. -/
def doubleOrdering? (left right : Float) : Option Ordering :=
  if left < right then some .lt
  else if left == right then some .eq
  else if right < left then some .gt
  else none

/-- The order of two values that are not null, or none where a not-a-number is among them. Values
of types that do not compare are an error. -/
def ordering? (left right : Value) : Except RenderError (Option Ordering) :=
  match left.integer?, right.integer? with
  | some leftNumber, some rightNumber => .ok (some (compare leftNumber rightNumber))
  | _, _ =>
    match left.double?, right.double? with
    | some leftNumber, some rightNumber => .ok (doubleOrdering? leftNumber rightNumber)
    | _, _ =>
      match left, right with
      | .bool left, .bool right => .ok (some (compare left right))
      | .text left, .text right => .ok (some (compare left right))
      | .dateTime left, .dateTime right => .ok (some (compare left right))
      | .date left, .date right => .ok (some (compare left right))
      | .uuid left, .uuid right => .ok (some (compare left right))
      | .bytes left, .bytes right => .ok (some (compare left right))
      | _, _ => .error (.wrongType "comparison" left.dataType right.dataType)

/-- Whether `left op right` holds. -/
def compared (op : Relation) (left right : Value) : Except RenderError Bool :=
  if left.isNull ∧ right.isNull then .ok (op == .eq)
  else if left.isNull ∨ right.isNull then .ok (op == .ne)
  else do
    match ← ordering? left right with
    | some ordering => return op.accepts ordering
    | none => return op == .ne

end Value

end QueryText
