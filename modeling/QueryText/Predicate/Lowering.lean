import QueryText.Predicate.Condition
import QueryText.Predicate.Operand
import QueryText.Value.Coercion

/-!
# Lowering

A predicate expression becomes a condition. Subtrees are read from left to right, and the first
error wins. A value that meets a column directly takes the column's declared type; inside
arithmetic it keeps its own.
-/

set_option autoImplicit false

namespace QueryText

namespace Context

/-- The slot of a value that meets `partner`. With `coerced` the value takes the type that the
partner is declared with. -/
def partnerSlot (context : Context) (value : Value) (partner : Option ResolvedColumn)
    (coerced : Bool) : Except RenderError Slot :=
  match partner with
  | some ⟨name, some dataType⟩ =>
    if coerced then do
      let value ← value.coerce dataType name
      context.slot name value dataType
    else context.slot name value value.dataType
  | some ⟨name, none⟩ => context.slot name value value.dataType
  | none => context.slot "p" value value.dataType

/-- The term of an operand that meets `partner`. -/
def term (context : Context) :
    Operand → Option ResolvedColumn → Bool → Except RenderError Term
  | .value value, partner, coerced => do
    let slot ← context.partnerSlot value partner coerced
    return .slot slot
  | .column column, _, _ => .ok (.column column.name)
  | .computed op left right column, _, _ => do
    let leftTerm ← context.term left (some column) false
    let rightTerm ← context.term right (some column) false
    return .arithmetic op leftTerm rightTerm

/-!
## Leaves
-/

/-- A comparison. Two values are compared at once. A null makes the comparison a null test: `<>`
asks for a value, every other operator for a null. -/
def comparison (context : Context) (op : Relation) (left right : Expr) :
    Except RenderError Condition := do
  let leftOperand ← context.operand left
  let rightOperand ← context.operand right
  match leftOperand, rightOperand with
  | .value leftValue, .value rightValue =>
    let holds ← Value.compared op leftValue rightValue
    return .truth holds
  | .value .null, other | other, .value .null =>
    let term ← context.term other none false
    return .nullTest (op == .ne) term
  | _, _ =>
    let leftTerm ← context.term leftOperand rightOperand.column? true
    let rightTerm ← context.term rightOperand leftOperand.column? true
    return .comparison op leftTerm rightTerm

def likeMatch (context : Context) (kind : TextSearch) (operand pattern : Expr) :
    Except RenderError Condition := do
  let .column column ← context.operand operand
    | .error (.unsupported operand.kind "LIKE operand")
  match column.dataType with
  | some dataType =>
    unless dataType = .string do throw (.wrongType column.name .string dataType)
  | none => pure ()
  match ← context.operand pattern with
  | .value (.text text) =>
    let slot ← context.partnerSlot (.text (kind.apply text)) (some column) true
    return .like column.name slot
  | .value other => .error (.wrongType column.name .string other.dataType)
  | _ => .error (.unsupported pattern.kind "LIKE pattern")

/-- A null test; that of a value is decided at once. -/
def nullTest (context : Context) (negated : Bool) (operand : Expr) :
    Except RenderError Condition := do
  match ← context.operand operand with
  | .value value => return .truth (value.isNull != negated)
  | other =>
    let term ← context.term other none false
    return .nullTest negated term

def listItem (context : Context) (column : ResolvedColumn) (item : Expr) :
    Except RenderError Slot := do
  match ← context.operand item with
  | .value value => context.partnerSlot value (some column) true
  | _ => .error (.unsupported item.kind "IN list item")

/-- The membership of a column in a list; no value is in the empty list. -/
def membership (context : Context) (negated : Bool) (operand : Expr) (items : List Expr) :
    Except RenderError Condition := do
  let .column column ← context.operand operand
    | .error (.unsupported operand.kind "IN operand")
  if items.isEmpty then return .truth negated
  let slots ← items.mapM (context.listItem column)
  return .inList negated column.name slots

/-- A property that stands for itself must be a boolean column, which is then compared with true. -/
def propertyTruth (context : Context) (property : String) : Except RenderError Condition := do
  let column ← context.column property
  match column.dataType with
  | none | some .boolean =>
    let slot ← context.partnerSlot (.bool true) (some column) true
    return .comparison .eq (.column column.name) (.slot slot)
  | some dataType => .error (.wrongType column.name .boolean dataType)

def captureTruth (context : Context) (member : Expr) : Except RenderError Condition := do
  match ← context.captureValue member with
  | .bool holds => return .truth holds
  | other => .error (.wrongType member.path .boolean other.dataType)

/-!
## Predicates
-/

def condition (context : Context) : Expr → Except RenderError Condition
  | .and left right => do
    let leftCondition ← context.condition left
    let rightCondition ← context.condition right
    return .and leftCondition rightCondition
  | .or left right => do
    let leftCondition ← context.condition left
    let rightCondition ← context.condition right
    return .or leftCondition rightCondition
  | .not operand => do
    let operandCondition ← context.condition operand
    return .not operandCondition
  | .compare op left right => context.comparison op left right
  | .like kind operand pattern => context.likeMatch kind operand pattern
  | .isNull negated operand => context.nullTest negated operand
  | .inList negated operand items => context.membership negated operand items
  | .literal (.bool holds) => .ok (.truth holds)
  | .literal _ => .error (.unsupported "Literal" "predicate")
  | .property name => context.propertyTruth name
  | .captured name => context.captureTruth (.captured name)
  | .field base name => context.captureTruth (.field base name)
  | .arithmetic _ _ _ => .error (.unsupported "Arithmetic" "predicate")

end Context

end QueryText
