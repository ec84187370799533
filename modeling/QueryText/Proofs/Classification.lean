import QueryText.Proofs.Faults
import QueryText.Proofs.OperandOrder

/-!
# Kinds of operands

Which expressions become values, columns and computed operands, and which column every computed part
of an operand lends to the values beside it. Arithmetic always finds such a column, so that it is
never out of place in an operand.
-/

set_option autoImplicit false

namespace QueryText

/-!
## Parts
-/

/-- A side of an arithmetic operator. -/
inductive Side where
  | left
  | right

/-- What an expression has at the end of a path through its arithmetic. -/
def Expr.at? : List Side → Expr → Option Expr
  | [], expr => some expr
  | .left :: path, .arithmetic _ left _ => left.at? path
  | .right :: path, .arithmetic _ _ right => right.at? path
  | _ :: _, _ => none

def Operand.at? : List Side → Operand → Option Operand
  | [], operand => some operand
  | .left :: path, .computed _ left _ _ => left.at? path
  | .right :: path, .computed _ _ right _ => right.at? path
  | _ :: _, _ => none

namespace Context

variable {context : Context} {expr : Expr} {operand : Operand}

/-- Every part of an operand is how the part of the expression at the same place is classified. -/
theorem Classifies.part (classified : context.Classifies expr operand) {path : List Side}
    {part : Operand} (reached : operand.at? path = some part) :
    ∃ source, expr.at? path = some source ∧ context.Classifies source part := by
  induction path generalizing expr operand with
  | nil =>
      cases reached
      exact ⟨expr, rfl, classified⟩
  | cons side path ih =>
      cases classified with
      | computed leftClassified rightClassified =>
          cases side with
          | left => exact ih leftClassified reached
          | right => exact ih rightClassified reached
      | literal | property | captured | field | folded => cases side <;> cases reached

/-!
## Kinds
-/

theorem Classifies.isValue_iff (classified : context.Classifies expr operand) :
    (∃ value, operand = .value value) ↔ expr.properties = [] :=
  Operand.column?_eq_none_iff.symm.trans classified.column?_eq_none_iff

theorem Classifies.isColumn_iff (classified : context.Classifies expr operand) :
    (∃ column, operand = .column column) ↔ ∃ name, expr = .property name := by
  constructor
  · rintro ⟨column, rfl⟩
    exact classified.eq_property
  · rintro ⟨name, rfl⟩
    cases classified with
    | property => exact ⟨_, rfl⟩

theorem Classifies.isComputed_iff (classified : context.Classifies expr operand) :
    (∃ op left right column, operand = .computed op left right column) ↔
      expr.properties ≠ [] ∧ ¬∃ name, expr = .property name := by
  rw [Ne, ← classified.isValue_iff, ← classified.isColumn_iff]
  cases operand <;> simp

/-- A computed operand comes from arithmetic and holds its leftmost property. -/
theorem Classifies.computed_leftmost {op : ArithmeticOp} {left right : Operand}
    {column : ResolvedColumn}
    (classified : context.Classifies expr (.computed op left right column)) :
    ∃ leftExpr rightExpr name, expr = .arithmetic op leftExpr rightExpr ∧
      expr.properties.head? = some name ∧ context.column name = .ok column := by
  obtain ⟨name, first, found⟩ := classified.lends rfl
  cases classified with
  | computed => exact ⟨_, _, name, rfl, first, found⟩

/-- What the kind of an operand says about the expression. A column that is recorded anywhere inside
is the leftmost property of the arithmetic at the same place. -/
structure ExactlyClassified (context : Context) (expr : Expr) (operand : Operand) : Prop where
  value_iff : (∃ value, operand = .value value) ↔ expr.properties = []
  column_iff : (∃ column, operand = .column column) ↔ ∃ name, expr = .property name
  computed_iff : (∃ op left right column, operand = .computed op left right column) ↔
    expr.properties ≠ [] ∧ ¬∃ name, expr = .property name
  leftmost : ∀ path op left right column,
    operand.at? path = some (.computed op left right column) →
      ∃ leftExpr rightExpr name, expr.at? path = some (.arithmetic op leftExpr rightExpr) ∧
        (Expr.arithmetic op leftExpr rightExpr).properties.head? = some name ∧
        context.column name = .ok column

theorem Classifies.exact (classified : context.Classifies expr operand) :
    context.ExactlyClassified expr operand where
  value_iff := classified.isValue_iff
  column_iff := classified.isColumn_iff
  computed_iff := classified.isComputed_iff
  leftmost path op left right column reached := by
    obtain ⟨source, sourceReached, part⟩ := classified.part reached
    obtain ⟨leftExpr, rightExpr, name, rfl, first, found⟩ := part.computed_leftmost
    exact ⟨leftExpr, rightExpr, name, sourceReached, first, found⟩

end Context

/-!
## Arithmetic in operands
-/

open Result (FailsAsPredicate FailsWith)

/-- Whether an error does not call arithmetic misplaced in an operand. -/
def RenderError.AllowsArithmetic (error : RenderError) : Prop :=
  error ≠ .unsupported "Arithmetic" "operand"

theorem RenderError.OfPredicate.allowsArithmetic {error : RenderError}
    (placed : error.OfPredicate False) : error.AllowsArithmetic := by
  rintro rfl
  cases placed with
  | unsupported misplaced => exact misplaced

theorem Result.FailsWith.allowsArithmetic {α : Type} {step : Except RenderError α}
    (fails : FailsAsPredicate False step) : FailsWith RenderError.AllowsArithmetic step :=
  fails.mono fun _ => RenderError.OfPredicate.allowsArithmetic

namespace Context

variable (context : Context)

/-- What is no capture is misplaced as the target of a member access, not as an operand. -/
theorem captureValue_allowsArithmetic (member : Expr) :
    FailsWith RenderError.AllowsArithmetic (context.captureValue member) := by
  have captured : FailsWith RenderError.AllowsArithmetic (context.captured member) :=
    context.captured_failsWith (fun _ => nofun) (fun _ _ => nofun) member fun _ _ =>
      by simp [RenderError.AllowsArithmetic]
  exact context.captureValue_failsWith (fun _ _ _ => nofun) captured

/-- Of two operands that are not both values, one has a column. -/
theorem exists_column {left right : Operand}
    (bears : ∀ leftValue rightValue, left = .value leftValue → right = .value rightValue → False) :
    ∃ column, left.column?.or right.column? = some column := by
  cases left with
  | value leftValue =>
      cases right with
      | value rightValue => exact (bears leftValue rightValue rfl rfl).elim
      | column reference => exact ⟨reference, rfl⟩
      | computed _ _ _ reference => exact ⟨reference, rfl⟩
  | column reference => exact ⟨reference, rfl⟩
  | computed _ _ _ reference => exact ⟨reference, rfl⟩

theorem operand_allowsArithmetic :
    (expr : Expr) → FailsWith RenderError.AllowsArithmetic (context.operand expr)
  | .literal value => .ok _
  | .property name => (context.column_fails name).allowsArithmetic.bind fun _ => .ok _
  | .captured name => (context.captureValue_allowsArithmetic (.captured name)).bind fun _ => .ok _
  | .field base name =>
    (context.captureValue_allowsArithmetic (.field base name)).bind fun _ => .ok _
  | .arithmetic op left right => by
      unfold operand
      refine (operand_allowsArithmetic left).bind fun leftOperand =>
        (operand_allowsArithmetic right).bind fun rightOperand => ?_
      split
      · next leftValue rightValue =>
        exact (Value.arithmetic_fails op leftValue rightValue).allowsArithmetic.bind fun _ => .ok _
      · next bears =>
        obtain ⟨column, found⟩ := exists_column bears
        rw [found]
        exact .ok _
  | .compare _ _ _ | .like _ _ _ | .isNull _ _ | .inList _ _ _ | .and _ _ | .or _ _ | .not _ =>
    .error (by simp [RenderError.AllowsArithmetic, Expr.kind])

/-- In every context, the kind of an operand says exactly which properties the expression has, every
computed part records its leftmost property, and no error calls arithmetic misplaced. -/
theorem operand_exact (expr : Expr) :
    (∀ operand, context.operand expr = .ok operand → context.ExactlyClassified expr operand) ∧
      context.operand expr ≠ .error (.unsupported "Arithmetic" "operand") := by
  refine ⟨fun operand classified => (Classifies.sound classified).exact, fun failed => ?_⟩
  exact (context.operand_allowsArithmetic expr).of_error failed rfl

/-- Orders, whose columns are named otherwise than their properties. -/
def sampleOrders : Entity where
  name := "Order"
  table := "orders"
  columns :=
    [{ property := "Price", column := "net_price", dataType := .int64 },
      { property := "Fee", column := "fee", dataType := .int32 }]

/-- `2 * 3 + (Fee - Price)` -/
def sampleTotal : Expr :=
  .arithmetic .add (.arithmetic .multiply (.literal (.int32 2)) (.literal (.int32 3)))
    (.arithmetic .subtract (.property "Fee") (.property "Price"))

def sampleOrderContext : Context where
  entity := some sampleOrders

/-- The product is folded, and the difference at the right lends its first property to the sum. -/
theorem operand_exact_sampleTotal :
    let fee : ResolvedColumn := ⟨"fee", some .int32⟩
    let price : ResolvedColumn := ⟨"net_price", some .int64⟩
    let difference : Operand := .computed .subtract (.column fee) (.column price) fee
    sampleOrderContext.operand sampleTotal =
        .ok (.computed .add (.value (.int32 6)) difference fee) ∧
      ∃ leftExpr rightExpr name,
        sampleTotal.at? [.right] = some (.arithmetic .subtract leftExpr rightExpr) ∧
        (Expr.arithmetic .subtract leftExpr rightExpr).properties.head? = some name ∧
        sampleOrderContext.column name = .ok fee := by
  intro fee price difference
  have classified : sampleOrderContext.operand sampleTotal =
      .ok (.computed .add (.value (.int32 6)) difference fee) := rfl
  obtain ⟨accepted, _⟩ := operand_exact sampleOrderContext sampleTotal
  have leftmost := (accepted _ classified).leftmost [.right]
  exact ⟨classified, leftmost .subtract (.column fee) (.column price) fee rfl⟩

end Context

end QueryText
