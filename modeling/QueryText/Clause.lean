import QueryText.Assignment
import QueryText.Predicate.Lowering

/-!
# Clauses

The parts of a statement that stand on their own: VALUES, SET, WHERE, ORDER BY and the bare
predicate. Clauses can share the parameters of one statement. A clause that fails leaves them as
they were, because its fragment is complete before anything is bound.
-/

set_option autoImplicit false

namespace QueryText

structure SortKey where
  column : String
  descending : Bool
  deriving DecidableEq

abbrev SortOrder := List SortKey

namespace SortOrder

def single (key : SortKey) : SortOrder := [key]

def thenBy (order : SortOrder) (key : SortKey) : SortOrder := order ++ [key]

end SortOrder

def SortKey.fragment (key : SortKey) (column : String) : Fragment :=
  [.name column, .fixed (if key.descending then " DESC" else " ASC")]

/-- The fragment of sort keys for the given columns; it is empty without keys. -/
def sortFragment (keys : SortOrder) (columns : List String) : Fragment :=
  if keys.isEmpty then []
  else .fixed "ORDER BY " :: Fragment.joined "," (List.zipWith SortKey.fragment keys columns)

inductive Clause where
  | values (assignments : List Assignment)
  | set (assignments : List Assignment)
  | predicate (expr : Expr)
  | filter (expr : Expr)
  | orderBy (keys : SortOrder)

namespace Context

/-!
## VALUES
-/

/-- The inserted value of an assignment. A new row has nothing to add to, so sums start at zero. -/
def insertedValue (context : Context) (assignment : Assignment) : Except RenderError Fragment :=
  match assignment.op with
  | .assign => do
    let slot ← context.slot assignment.key assignment.value assignment.dataType
    return [.slot slot]
  | .now => .ok [.now]
  | .add | .subtract => .ok [.fixed "0"]

def valuesFragment (context : Context) (assignments : List Assignment) :
    Except RenderError Fragment := do
  if assignments.isEmpty then
    throw (.validation "VALUES clause requires at least one column")
  let values ← assignments.mapM context.insertedValue
  let columns := assignments.map fun assignment => [Piece.name assignment.key]
  return Fragment.parenthesized (Fragment.joined "," columns) ++ .fixed " VALUES " ::
    Fragment.parenthesized (Fragment.joined "," values)

/-!
## SET
-/

/-- The assignment with its key replaced by a column and its value of the column's declared type,
if the entity is known. -/
def resolvedAssignment (context : Context) (assignment : Assignment) :
    Except RenderError Assignment :=
  match context.entity with
  | none => .ok assignment
  | some entity => do
    let column ← entity.resolve assignment.key
    let value ←
      match assignment.op with
      | .now => pure assignment.value
      | _ => assignment.value.coerce column.dataType column.column
    return ⟨column.column, assignment.op, value, column.dataType⟩

def assignedValue (context : Context) (assignment : Assignment) : Except RenderError Fragment :=
  match assignment.op with
  | .assign => do
    let slot ← context.slot assignment.key assignment.value assignment.dataType
    return [.slot slot]
  | .now => .ok [.now]
  | .add => do
    let slot ← context.slot assignment.key assignment.value assignment.dataType
    return [.name assignment.key, .fixed "+", .slot slot]
  | .subtract => do
    let slot ← context.slot assignment.key assignment.value assignment.dataType
    return [.name assignment.key, .fixed "-", .slot slot]

def assignmentFragment (context : Context) (assignment : Assignment) :
    Except RenderError Fragment := do
  let value ← context.assignedValue assignment
  return .name assignment.key :: .fixed "=" :: value

/-- The assignments of an UPDATE. All of them are resolved before the first is written. -/
def setFragment (context : Context) (assignments : List Assignment) :
    Except RenderError Fragment := do
  if assignments.isEmpty then
    throw (.validation "SET clause requires at least one column")
  let resolved ← assignments.mapM context.resolvedAssignment
  let written ← resolved.mapM context.assignmentFragment
  return .fixed "SET " :: Fragment.joined "," written

/-!
## WHERE and ORDER BY
-/

def predicateFragment (context : Context) (expr : Expr) : Except RenderError Fragment := do
  let condition ← context.condition expr
  return condition.fragment

def filterFragment (context : Context) (expr : Expr) : Except RenderError Fragment := do
  let predicate ← context.predicateFragment expr
  return .fixed "WHERE " :: predicate

def orderColumn (context : Context) (key : SortKey) : Except RenderError String := do
  let column ← context.column key.column
  return column.name

def orderFragment (context : Context) (keys : SortOrder) : Except RenderError Fragment := do
  let columns ← keys.mapM context.orderColumn
  return sortFragment keys columns

/-!
## Clauses that share parameters
-/

def clauseFragment (context : Context) : Clause → Except RenderError Fragment
  | .values assignments => context.valuesFragment assignments
  | .set assignments => context.setFragment assignments
  | .predicate expr => context.predicateFragment expr
  | .filter expr => context.filterFragment expr
  | .orderBy keys => context.orderFragment keys

end Context

namespace Settings

def context (settings : Settings) (scope : Option Scope) (entity : Option Entity) : Context :=
  { scope, entity, useParameters := settings.useParameters }

end Settings

namespace Clause

/-- The text of a clause behind the given parameters, and the parameters after it. -/
def render (settings : Settings) (scope : Option Scope) (entity : Option Entity)
    (parameters : Parameters) (clause : Clause) : Except RenderError (String × Parameters) := do
  let fragment ← (settings.context scope entity).clauseFragment clause
  return (fragment.text settings parameters.size, fragment.bind settings parameters)

def bind (settings : Settings) (scope : Option Scope) (entity : Option Entity)
    (parameters : Parameters) (clause : Clause) : Parameters :=
  match clause.render settings scope entity parameters with
  | .ok (_, after) => after
  | .error _ => parameters

end Clause

end QueryText
