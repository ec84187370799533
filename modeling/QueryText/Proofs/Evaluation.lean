import QueryText.Proofs.Clause
import QueryText.Proofs.Lowering

/-!
# Evaluation on a row

What expressions and conditions say about a row whose values are known. Operands are evaluated from
left to right with host arithmetic and host comparison, and connectives stop at the first operand
that decides them. Lowering without declared types keeps the meaning of an expression: what it
folds, turns into null tests or decides at once comes out the same on every row.
-/

set_option autoImplicit false

namespace QueryText

abbrev Row := String → Value

abbrev Matcher := Value → String → Except RenderError Bool

/-- Whether a value is found by a search, whose pattern must be a text. -/
def Matcher.finds (matcher : Matcher) (kind : TextSearch) (value : Value) :
    Value → Except RenderError Bool
  | .text text => matcher value (kind.apply text)
  | other => .error (.wrongType "pattern" .string other.dataType)

/-- Whether some item compares equal to a value. The items after it are not compared. -/
def Value.among (value : Value) : List Value → Except RenderError Bool
  | [] => .ok false
  | item :: items => do
    if ← compared .eq value item then return true
    value.among items

/-!
## Expressions
-/

namespace Expr

def rowValue (context : Context) (row : Row) : Expr → Except RenderError Value
  | .literal value => .ok value
  | .property name => .ok (row name)
  | .captured name => context.captureValue (.captured name)
  | .field base name => context.captureValue (.field base name)
  | .arithmetic op left right => do
    let leftValue ← left.rowValue context row
    let rightValue ← right.rowValue context row
    Value.arithmetic op leftValue rightValue
  | other => .error (.unsupported other.kind "operand")

/-- Whether a predicate holds on a row. A property by itself says that its value is true. -/
def holds (context : Context) (matcher : Matcher) (row : Row) : Expr → Except RenderError Bool
  | .and left right => do
    if ← left.holds context matcher row then right.holds context matcher row else return false
  | .or left right => do
    if ← left.holds context matcher row then return true else right.holds context matcher row
  | .not operand => do
    let inner ← operand.holds context matcher row
    return !inner
  | .compare op left right => do
    let leftValue ← left.rowValue context row
    let rightValue ← right.rowValue context row
    Value.compared op leftValue rightValue
  | .like kind operand pattern => do
    let value ← operand.rowValue context row
    let patternValue ← pattern.rowValue context row
    matcher.finds kind value patternValue
  | .isNull negated operand => do
    let value ← operand.rowValue context row
    return value.isNull != negated
  | .inList negated operand items => do
    let value ← operand.rowValue context row
    let values ← items.mapM (rowValue context row)
    let found ← value.among values
    return found != negated
  | .literal (.bool truth) => .ok truth
  | .property name => Value.compared .eq (row name) (.bool true)
  | .captured name => context.captureValue (.captured name) >>= truth
  | .field base name => context.captureValue (.field base name) >>= truth
  | other => .error (.unsupported other.kind "predicate")
where
  truth : Value → Except RenderError Bool
    | .bool truth => .ok truth
    | other => .error (.wrongType "predicate" .boolean other.dataType)

/-- Whether an expression asks for the order of a null: a side of some `<`, `<=`, `>` or `>=` folds
to the null. -/
def OrdersNull (context : Context) : Expr → Prop
  | .and left right | .or left right => left.OrdersNull context ∨ right.OrdersNull context
  | .not operand => operand.OrdersNull context
  | .compare op left right =>
    op ≠ .eq ∧ op ≠ .ne ∧
      (context.operand left = .ok (.value .null) ∨ context.operand right = .ok (.value .null))
  | _ => False

end Expr

/-!
## Conditions
-/

def Operand.rowValue (row : Row) : Operand → Except RenderError Value
  | .value folded => .ok folded
  | .column reference => .ok (row reference.name)
  | .computed op left right _ => do
    let leftValue ← left.rowValue row
    let rightValue ← right.rowValue row
    Value.arithmetic op leftValue rightValue

def Term.rowValue (row : Row) : Term → Except RenderError Value
  | .column name => .ok (row name)
  | .slot place => .ok place.value
  | .arithmetic op left right => do
    let leftValue ← left.rowValue row
    let rightValue ← right.rowValue row
    Value.arithmetic op leftValue rightValue

def Condition.holds (matcher : Matcher) (row : Row) : Condition → Except RenderError Bool
  | .truth decided => .ok decided
  | .comparison op left right => do
    let leftValue ← left.rowValue row
    let rightValue ← right.rowValue row
    Value.compared op leftValue rightValue
  | .nullTest negated term => do
    let value ← term.rowValue row
    return value.isNull != negated
  | .like column pattern => matcher.finds .pattern (row column) pattern.value
  | .inList negated column items => do
    let found ← (row column).among (items.map Slot.value)
    return found != negated
  | .and left right => do
    if ← left.holds matcher row then right.holds matcher row else return false
  | .or left right => do
    if ← left.holds matcher row then return true else right.holds matcher row
  | .not operand => do
    let inner ← operand.holds matcher row
    return !inner

/-!
## Nulls
-/

namespace Value

variable {op : Relation}

theorem compared_null_left (unordered : op = .eq ∨ op = .ne) (value : Value) :
    compared op .null value = .ok (value.isNull != (op == .ne)) := by
  rcases unordered with rfl | rfl <;> cases value <;> rfl

theorem compared_null_right (unordered : op = .eq ∨ op = .ne) (value : Value) :
    compared op value .null = .ok (value.isNull != (op == .ne)) := by
  rcases unordered with rfl | rfl <;> cases value <;> rfl

end Value

theorem Expr.unordered_of_null {context : Context} {op : Relation} {left right : Expr}
    (orderly : ¬(compare op left right).OrdersNull context)
    (null : context.operand left = .ok (.value .null) ∨
      context.operand right = .ok (.value .null)) : op = .eq ∨ op = .ne := by
  by_contra ordered
  rw [not_or] at ordered
  exact orderly ⟨ordered.1, ordered.2, null⟩

/-!
## Lowering keeps the meaning
-/

namespace Context

variable {context : Context} {row : Row} {matcher : Matcher}

theorem column_untyped (unknown : context.entity = none) {name : String}
    {column : ResolvedColumn} (found : context.column name = .ok column) :
    column = ⟨name, none⟩ := by
  rw [Context.column, unknown] at found
  cases found
  rfl

theorem Classifies.untyped (unknown : context.entity = none) {expr : Expr} {operand : Operand}
    (classified : context.Classifies expr operand) :
    ∀ column ∈ operand.column?, column.dataType = none := by
  induction classified with
  | literal | captured | field | folded => exact nofun
  | property found =>
      intro column same
      cases same
      rw [column_untyped unknown found]
  | computed _ _ named leftIH rightIH =>
      intro column same
      cases same
      rcases Option.or_eq_some_iff.mp named with named | ⟨_, named⟩
      · exact leftIH _ named
      · exact rightIH _ named

theorem Classifies.rowValue (unknown : context.entity = none) {expr : Expr} {operand : Operand}
    (classified : context.Classifies expr operand) :
    expr.rowValue context row = operand.rowValue row := by
  induction classified with
  | literal => rfl
  | property found =>
      rw [column_untyped unknown found]
      rfl
  | captured found => exact found
  | field found => exact found
  | folded _ _ applied leftIH rightIH =>
      rw [Expr.rowValue, leftIH, rightIH]
      exact applied
  | computed _ _ _ leftIH rightIH =>
      rw [Expr.rowValue, leftIH, rightIH]
      rfl

theorem partnerSlot_value {value : Value} {partner : Option ResolvedColumn} {coerced : Bool}
    {slot : Slot} (untyped : coerced = true → ∀ column ∈ partner, column.dataType = none)
    (placed : context.partnerSlot value partner coerced = .ok slot) : slot.value = value := by
  have kept : ∀ {base : String} {dataType : DataType},
      context.slot base value dataType = .ok slot → slot.value = value := by
    intro base dataType placed
    obtain ⟨_, rfl⟩ := slot_eq_ok_iff.mp placed
    rfl
  unfold partnerSlot at placed
  split at placed
  · next name dataType =>
    cases coerced with
    | true => exact absurd (untyped rfl _ rfl) nofun
    | false => exact kept placed
  · exact kept placed
  · exact kept placed

theorem Writes.rowValue {operand : Operand} {partner : Option ResolvedColumn} {coerced : Bool}
    {term : Term} (written : context.Writes operand partner coerced term)
    (untyped : coerced = true → ∀ column ∈ partner, column.dataType = none) :
    term.rowValue row = operand.rowValue row := by
  induction written with
  | value placed => exact congrArg Except.ok (partnerSlot_value untyped placed)
  | column => rfl
  | computed _ _ leftIH rightIH =>
      rw [Term.rowValue, leftIH nofun, rightIH nofun]
      rfl

private theorem itemSlots_values (unknown : context.entity = none) {column : ResolvedColumn}
    (untyped : column.dataType = none) {items : List Expr} {slots : List Slot}
    (placed : List.Forall₂ (context.ItemSlot column) items slots) :
    items.mapM (Expr.rowValue context row) = .ok (slots.map Slot.value) := by
  rw [Result.mapM_eq_ok_iff, List.forall₂_map_right_iff]
  refine placed.imp fun item slot ⟨value, classified, placed⟩ => ?_
  rw [classified.rowValue unknown, partnerSlot_value (fun _ => ?_) placed]
  · rfl
  · intro partner same
    cases same
    exact untyped

/-- Lowering keeps the meaning of an expression on every row, unless the expression asks for the
order of a null. -/
theorem Lowers.holds (unknown : context.entity = none) {expr : Expr} {condition : Condition}
    (lowered : context.Lowers expr condition) (orderly : ¬expr.OrdersNull context) :
    condition.holds matcher row = expr.holds context matcher row := by
  induction lowered with
  | and _ _ leftIH rightIH =>
      rw [Expr.OrdersNull, not_or] at orderly
      rw [Condition.holds, leftIH orderly.1, rightIH orderly.2]
      rfl
  | or _ _ leftIH rightIH =>
      rw [Expr.OrdersNull, not_or] at orderly
      rw [Condition.holds, leftIH orderly.1, rightIH orderly.2]
      rfl
  | not _ ih =>
      rw [Condition.holds, ih orderly]
      rfl
  | truth => rfl
  | property found _ placed =>
      obtain rfl := column_untyped unknown found
      have kept := partnerSlot_value (by simp) placed
      simp only [Condition.holds, Term.rowValue, kept]
      rfl
  | captured found =>
      rw [Expr.holds, found]
      rfl
  | field found =>
      rw [Expr.holds, found]
      rfl
  | decided left right compared =>
      rw [Expr.holds, left.rowValue unknown, right.rowValue unknown]
      exact compared.symm
  | nullLeft left right _ written =>
      -- Only equality and its negation are left, and with a null these are null tests.
      have unordered := Expr.unordered_of_null orderly (.inl left.complete)
      rw [Expr.holds, left.rowValue unknown, right.rowValue unknown, Condition.holds,
        written.rowValue nofun]
      exact congrArg _ (funext fun value => (Value.compared_null_left unordered value).symm)
  | nullRight left right _ written =>
      have unordered := Expr.unordered_of_null orderly (.inr right.complete)
      rw [Expr.holds, left.rowValue unknown, right.rowValue unknown, Condition.holds,
        written.rowValue nofun]
      exact congrArg _ (funext fun value => (Value.compared_null_right unordered value).symm)
  | compared left right _ _ _ leftWritten rightWritten =>
      have leftUntyped := left.untyped unknown
      have rightUntyped := right.untyped unknown
      rw [Expr.holds, left.rowValue unknown, right.rowValue unknown, Condition.holds,
        leftWritten.rowValue fun _ => rightUntyped, rightWritten.rowValue fun _ => leftUntyped]
  | like operand _ pattern placed =>
      have untyped := operand.untyped unknown
      have kept := partnerSlot_value (fun _ => untyped) placed
      rw [Expr.holds, operand.rowValue unknown, pattern.rowValue unknown, Condition.holds, kept]
      rfl
  | valueTest operand =>
      rw [Expr.holds, operand.rowValue unknown]
      rfl
  | nullTest operand _ written =>
      rw [Expr.holds, operand.rowValue unknown, Condition.holds, written.rowValue nofun]
  | @emptyList negated _ _ operand =>
      -- The operand is a column, so evaluating it cannot fail before the list is found empty.
      rw [Expr.holds, operand.rowValue unknown]
      cases negated <;> rfl
  | list operand _ placed =>
      have untyped := operand.untyped unknown
      rw [Expr.holds, operand.rowValue unknown, itemSlots_values unknown (untyped _ rfl) placed]
      rfl

end Context

end QueryText
