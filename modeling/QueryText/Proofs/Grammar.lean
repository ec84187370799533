import QueryText.Proofs.Instantiation

/-!
# Grammar of predicates

Which expressions can stand where. A predicate joins comparisons, searches, null tests and lists;
its operands are values, columns and arithmetic; a pattern and the items of a list name no property.
Whatever becomes a condition is formed by these rules.
-/

set_option autoImplicit false

namespace QueryText

namespace Expr

/-!
## Rules
-/

/-- A variable, or a chain of members that starts at one. -/
inductive IsCapture : Expr → Prop where
  | captured {name : String} : IsCapture (.captured name)
  | field {base : Expr} {name : String} : IsCapture base → IsCapture (.field base name)

inductive IsOperand : Expr → Prop where
  | literal {value : Value} : IsOperand (.literal value)
  | property {name : String} : IsOperand (.property name)
  | capture {member : Expr} : IsCapture member → IsOperand member
  | arithmetic {op : ArithmeticOp} {left right : Expr} :
      IsOperand left → IsOperand right → IsOperand (.arithmetic op left right)

/-- An operand that names no property. -/
structure IsConstant (expr : Expr) : Prop where
  isOperand : expr.IsOperand
  columnFree : expr.properties = []

inductive IsPredicate : Expr → Prop where
  | and {left right : Expr} : IsPredicate left → IsPredicate right → IsPredicate (.and left right)
  | or {left right : Expr} : IsPredicate left → IsPredicate right → IsPredicate (.or left right)
  | not {operand : Expr} : IsPredicate operand → IsPredicate (.not operand)
  | compare {op : Relation} {left right : Expr} :
      IsOperand left → IsOperand right → IsPredicate (.compare op left right)
  | like {kind : TextSearch} {name : String} {pattern : Expr} :
      IsConstant pattern → IsPredicate (.like kind (.property name) pattern)
  | isNull {negated : Bool} {operand : Expr} :
      IsOperand operand → IsPredicate (.isNull negated operand)
  | inList {negated : Bool} {name : String} {items : List Expr} :
      (∀ item ∈ items, IsConstant item) → IsPredicate (.inList negated (.property name) items)
  | truth {holds : Bool} : IsPredicate (.literal (.bool holds))
  | property {name : String} : IsPredicate (.property name)
  | capture {member : Expr} : IsCapture member → IsPredicate member

/-!
## Parts
-/

theorem IsCapture.base {base : Expr} {name : String} :
    (Expr.field base name).IsCapture → base.IsCapture
  | .field formed => formed

theorem IsOperand.isCapture_field {base : Expr} {name : String} :
    (Expr.field base name).IsOperand → (Expr.field base name).IsCapture
  | .capture formed => formed

theorem IsOperand.sides {op : ArithmeticOp} {left right : Expr} :
    (Expr.arithmetic op left right).IsOperand → left.IsOperand ∧ right.IsOperand
  | .arithmetic leftFormed rightFormed => ⟨leftFormed, rightFormed⟩

theorem IsPredicate.isCapture_field {base : Expr} {name : String} :
    (Expr.field base name).IsPredicate → (Expr.field base name).IsCapture
  | .capture formed => formed

theorem IsPredicate.conjuncts {left right : Expr} :
    (Expr.and left right).IsPredicate → left.IsPredicate ∧ right.IsPredicate
  | .and leftFormed rightFormed => ⟨leftFormed, rightFormed⟩

theorem IsPredicate.disjuncts {left right : Expr} :
    (Expr.or left right).IsPredicate → left.IsPredicate ∧ right.IsPredicate
  | .or leftFormed rightFormed => ⟨leftFormed, rightFormed⟩

theorem IsPredicate.negated {operand : Expr} : (Expr.not operand).IsPredicate → operand.IsPredicate
  | .not formed => formed

theorem IsPredicate.compared {op : Relation} {left right : Expr} :
    (Expr.compare op left right).IsPredicate → left.IsOperand ∧ right.IsOperand
  | .compare leftFormed rightFormed => ⟨leftFormed, rightFormed⟩

theorem IsPredicate.searched {kind : TextSearch} {operand pattern : Expr} :
    (Expr.like kind operand pattern).IsPredicate →
      (∃ name, operand = .property name) ∧ pattern.IsConstant
  | .like formed => ⟨⟨_, rfl⟩, formed⟩

theorem IsPredicate.nullTested {negated : Bool} {operand : Expr} :
    (Expr.isNull negated operand).IsPredicate → operand.IsOperand
  | .isNull formed => formed

theorem IsPredicate.listed {negated : Bool} {operand : Expr} {items : List Expr} :
    (Expr.inList negated operand items).IsPredicate →
      (∃ name, operand = .property name) ∧ ∀ item ∈ items, item.IsConstant
  | .inList formed => ⟨⟨_, rfl⟩, formed⟩

end Expr

namespace Context

variable {context : Context}

/-!
## Formed expressions
-/

theorem isCapture_of_captured {member : Expr} {found : Capture}
    (captured : context.captured member = .ok found) : member.IsCapture := by
  fun_induction Context.captured context member generalizing found with
  | case1 | case2 => exact .captured
  | case3 base name ih =>
      obtain ⟨object, objectOk, _⟩ := Result.bind_eq_ok_iff.mp captured
      exact .field (ih objectOk)
  | case4 | case5 => cases captured

theorem isCapture_of_captureValue {member : Expr} {value : Value}
    (found : context.captureValue member = .ok value) : member.IsCapture := by
  obtain ⟨capture, captured, _⟩ := Result.bind_eq_ok_iff.mp found
  exact isCapture_of_captured captured

theorem Classifies.isOperand {expr : Expr} {operand : Operand}
    (classified : context.Classifies expr operand) : expr.IsOperand := by
  induction classified with
  | literal => exact .literal
  | property => exact .property
  | captured found | field found => exact .capture (isCapture_of_captureValue found)
  | folded _ _ _ leftIH rightIH | computed _ _ _ leftIH rightIH => exact .arithmetic leftIH rightIH

theorem Classifies.isConstant {expr : Expr} {value : Value}
    (classified : context.Classifies expr (.value value)) : expr.IsConstant :=
  ⟨classified.isOperand, classified.column?_eq_none_iff.mp rfl⟩

/-- Only a property is classified as a column. -/
theorem Classifies.eq_property {expr : Expr} {column : ResolvedColumn}
    (classified : context.Classifies expr (.column column)) : ∃ name, expr = .property name := by
  cases classified with
  | property => exact ⟨_, rfl⟩

/-- Every expression that becomes a condition is a predicate. -/
theorem Lowers.isPredicate {expr : Expr} {condition : Condition}
    (lowered : context.Lowers expr condition) : expr.IsPredicate := by
  induction lowered with
  | and _ _ leftIH rightIH => exact .and leftIH rightIH
  | or _ _ leftIH rightIH => exact .or leftIH rightIH
  | not _ ih => exact .not ih
  | truth => exact .truth
  | property => exact .property
  | captured found | field found => exact .capture (isCapture_of_captureValue found)
  | decided left right | nullLeft left right | nullRight left right | compared left right =>
      exact .compare left.isOperand right.isOperand
  | like operand _ pattern =>
      obtain ⟨name, rfl⟩ := operand.eq_property
      exact .like pattern.isConstant
  | valueTest operand | nullTest operand => exact .isNull operand.isOperand
  | emptyList operand =>
      obtain ⟨name, rfl⟩ := operand.eq_property
      exact .inList (List.forall_mem_nil _)
  | list operand _ placed =>
      obtain ⟨name, rfl⟩ := operand.eq_property
      refine .inList fun item member => ?_
      obtain ⟨slot, _, value, classified, _⟩ := Result.exists_of_mem_left placed member
      exact classified.isConstant

end Context

end QueryText
