import QueryText.Proofs.Grammar
import QueryText.Proofs.Result
import QueryText.Statement.Filter

/-!
# Faults of predicates

Which errors a predicate or an order can have: misplaced expressions, captures and names that lead
nowhere, values of wrong types, arithmetic without a result, and doubles that no literal spells.
All other errors come from the statement around it. An expression is only called misplaced where
the grammar has no place for it.
-/

set_option autoImplicit false

namespace QueryText

/-- The errors of predicates and orders. Expressions are called misplaced only if some are. -/
inductive RenderError.OfPredicate (misplaced : Prop) : RenderError → Prop where
  | unsupported (some : misplaced) (kind position : String) :
      OfPredicate misplaced (.unsupported kind position)
  | unknownCapture (name : String) : OfPredicate misplaced (.unknownCapture name)
  | unknownMember (object member : String) : OfPredicate misplaced (.unknownMember object member)
  | unknownProperty (entity property : String) :
      OfPredicate misplaced (.unknownProperty entity property)
  | typeMismatch (target expected found : String) :
      OfPredicate misplaced (.typeMismatch target expected found)
  | arithmetic (message : String) : OfPredicate misplaced (.arithmetic message)
  | noLiteral (number : Float) : OfPredicate misplaced (.noLiteral number)

theorem RenderError.OfPredicate.imp {misplaced other : Prop} (weaker : misplaced → other)
    {error : RenderError} (predicate : error.OfPredicate misplaced) : error.OfPredicate other := by
  cases predicate with
  | unsupported some kind position => exact .unsupported (weaker some) kind position
  | unknownCapture name => exact .unknownCapture name
  | unknownMember object member => exact .unknownMember object member
  | unknownProperty entity property => exact .unknownProperty entity property
  | typeMismatch target expected found => exact .typeMismatch target expected found
  | arithmetic message => exact .arithmetic message
  | noLiteral number => exact .noLiteral number

/-- A step all of whose errors are of a kind. -/
structure Result.FailsWith {ε α : Type} (kind : ε → Prop) (step : Except ε α) : Prop where
  of_error : ∀ {error}, step = .error error → kind error

namespace Result.FailsWith

variable {ε α β : Type} {kind : ε → Prop}

theorem ok (value : α) : FailsWith kind (.ok value : Except ε α) :=
  ⟨nofun⟩

theorem error {reason : ε} (allowed : kind reason) :
    FailsWith kind (.error reason : Except ε α) :=
  ⟨fun | rfl => allowed⟩

theorem mono {other : ε → Prop} {step : Except ε α} (fails : FailsWith kind step)
    (weaker : ∀ reason, kind reason → other reason) : FailsWith other step :=
  ⟨fun failed => weaker _ (fails.of_error failed)⟩

theorem bind_of {step : Except ε α} {next : α → Except ε β} (first : FailsWith kind step)
    (later : ∀ value, step = .ok value → FailsWith kind (next value)) :
    FailsWith kind (step >>= next) := by
  cases step with
  | error reason => exact error (first.of_error rfl)
  | ok value => exact later value rfl

theorem bind {step : Except ε α} {next : α → Except ε β} (first : FailsWith kind step)
    (later : ∀ value, FailsWith kind (next value)) : FailsWith kind (step >>= next) :=
  first.bind_of fun value _ => later value

theorem mapM {step : α → Except ε β} {items : List α}
    (each : ∀ item ∈ items, FailsWith kind (step item)) : FailsWith kind (items.mapM step) := by
  induction items with
  | nil => exact ok []
  | cons item rest ih =>
      obtain ⟨first, others⟩ := List.forall_mem_cons.mp each
      rw [List.mapM_cons]
      exact first.bind fun _ => (ih others).bind fun _ => ok _

end Result.FailsWith

abbrev Result.FailsAsPredicate {α : Type} (misplaced : Prop) (step : Except RenderError α) : Prop :=
  Result.FailsWith (RenderError.OfPredicate misplaced) step

theorem Result.FailsWith.imp {α : Type} {misplaced other : Prop} {step : Except RenderError α}
    (fails : Result.FailsAsPredicate misplaced step) (weaker : misplaced → other) :
    Result.FailsAsPredicate other step :=
  fails.mono fun _ => .imp weaker

open Result (FailsAsPredicate FailsWith)

/-!
## Values
-/

namespace Value

variable {misplaced : Prop}

theorem coerce_fails (value : Value) (target : DataType) (name : String) :
    FailsAsPredicate misplaced (value.coerce target name) := by
  unfold coerce
  split
  · exact .ok _
  · split
    · exact .ok _
    · exact .error (.typeMismatch ..)

theorem arithmetic_fails (op : ArithmeticOp) (left right : Value) :
    FailsAsPredicate misplaced (arithmetic op left right) := by
  have integers : ∀ leftNumber rightNumber,
      FailsAsPredicate misplaced (integerResult op leftNumber rightNumber) := by
    intro leftNumber rightNumber
    unfold integerResult
    split
    · exact .error (.arithmetic _)
    · split
      · exact .ok _
      · exact .error (.arithmetic _)
  have narrowed : ∀ dataType number, FailsAsPredicate misplaced (narrow op dataType number) := by
    intro dataType number
    unfold narrow
    split
    · exact .ok _
    · exact .error (.arithmetic _)
  have doubles : ∀ leftNumber rightNumber,
      FailsAsPredicate misplaced (doubleResult op leftNumber rightNumber) := by
    intro leftNumber rightNumber
    unfold doubleResult
    split
    · exact .error (.arithmetic _)
    · exact .ok _
  have texts : FailsAsPredicate misplaced (textResult op left right) := by
    unfold textResult
    split
    · exact .ok _
    · exact .error (.arithmetic _)
  unfold arithmetic
  split
  · exact .ok _
  · split
    · exact (integers _ _).bind fun _ => narrowed _ _
    · split
      · exact (doubles _ _).bind fun _ => .ok _
      · exact texts

theorem compared_fails (op : Relation) (left right : Value) :
    FailsAsPredicate misplaced (compared op left right) := by
  have ordered : FailsAsPredicate misplaced (ordering? left right) := by
    unfold ordering?
    repeat' split
    all_goals first | exact .ok _ | exact .error (.typeMismatch ..)
  unfold compared
  split
  · exact .ok _
  · split
    · exact .ok _
    · refine ordered.bind fun ordering => ?_
      cases ordering with
      | none => exact .ok _
      | some ordering => exact .ok _

theorem checkLiteral_fails (value : Value) : FailsAsPredicate misplaced value.checkLiteral := by
  cases value with
  | double number =>
      rw [checkLiteral]
      split
      · exact .ok _
      · exact .error (.noLiteral number)
  | _ => exact .ok _

end Value

/-!
## Operands
-/

theorem Operand.column?_eq_none_iff {operand : Operand} :
    operand.column? = none ↔ ∃ value, operand = .value value := by
  cases operand <;> simp [column?]

namespace Context

variable (context : Context) {misplaced : Prop}

theorem column_fails (property : String) :
    FailsAsPredicate misplaced (context.column property) := by
  unfold column
  split
  next entity _ =>
    have resolved : FailsAsPredicate misplaced (entity.resolve property) := by
      unfold Entity.resolve
      split
      · exact .ok _
      · exact .error (.unknownProperty ..)
    exact resolved.bind fun _ => .ok _
  next => exact .ok _

/-- The errors of a capture: a name or a member that is unknown, and a target that is no capture. -/
theorem captured_failsWith {kind : RenderError → Prop}
    (unknown : ∀ name, kind (.unknownCapture name))
    (missing : ∀ object member, kind (.unknownMember object member)) :
    (expr : Expr) →
      (¬expr.IsCapture → ∀ found, kind (.unsupported found "member access target")) →
      FailsWith kind (context.captured expr)
  | .captured name, _ => by
      unfold captured
      split
      next scope _ =>
        unfold Scope.lookup
        split
        · exact .ok _
        · exact .error (unknown name)
      next => exact .error (unknown name)
  | .field base name, misplaced => by
      unfold captured
      refine (captured_failsWith unknown missing base fun unformed =>
        misplaced (mt Expr.IsCapture.base unformed)).bind fun capture => ?_
      cases capture with
      | object members =>
          dsimp only
          split
          · exact .ok _
          · exact .error (missing ..)
      | value value => exact .error (missing ..)
  | .literal _, misplaced | .property _, misplaced | .arithmetic _ _ _, misplaced
  | .compare _ _ _, misplaced | .like _ _ _, misplaced | .isNull _ _, misplaced
  | .inList _ _ _, misplaced | .and _ _, misplaced | .or _ _, misplaced | .not _, misplaced =>
    .error (misplaced nofun _)

theorem captureValue_failsWith {kind : RenderError → Prop} {member : Expr}
    (mismatch : ∀ target expected found, kind (.typeMismatch target expected found))
    (fails : FailsWith kind (context.captured member)) :
    FailsWith kind (context.captureValue member) := by
  refine fails.bind fun capture => ?_
  cases capture with
  | value value => exact .ok _
  | object members => exact .error (mismatch ..)

theorem captured_fails (expr : Expr) :
    FailsAsPredicate (¬expr.IsCapture) (context.captured expr) :=
  context.captured_failsWith .unknownCapture .unknownMember expr fun misplaced found =>
    .unsupported misplaced found _

theorem captureValue_fails (member : Expr) :
    FailsAsPredicate (¬member.IsCapture) (context.captureValue member) :=
  context.captureValue_failsWith .typeMismatch (context.captured_fails member)

theorem slot_fails (base : String) (value : Value) (dataType : DataType) :
    FailsAsPredicate misplaced (context.slot base value dataType) := by
  unfold slot
  split
  · exact .ok _
  · exact value.checkLiteral_fails.bind fun _ => .ok _

theorem operand_fails :
    (expr : Expr) → FailsAsPredicate (¬expr.IsOperand) (context.operand expr)
  | .literal _ => .ok _
  | .property name => (context.column_fails name).bind fun _ => .ok _
  | .captured name =>
      ((context.captureValue_fails (.captured name)).imp fun misplaced =>
        absurd .captured misplaced).bind fun _ => .ok _
  | .field base name =>
      ((context.captureValue_fails (.field base name)).imp
        (mt Expr.IsOperand.isCapture_field)).bind fun _ => .ok _
  | .arithmetic op left right => by
      unfold operand
      refine ((operand_fails left).imp (mt fun formed => formed.sides.1)).bind fun leftOperand =>
        ((operand_fails right).imp (mt fun formed => formed.sides.2)).bind fun rightOperand => ?_
      split
      · exact (Value.arithmetic_fails ..).bind fun _ => .ok _
      next notValues =>
        split
        · exact .ok _
        next unnamed =>
          -- Without a column on either side both are values, and those have been computed.
          obtain ⟨leftBare, rightBare⟩ := Option.or_eq_none_iff.mp unnamed
          obtain ⟨leftValue, rfl⟩ := Operand.column?_eq_none_iff.mp leftBare
          obtain ⟨rightValue, rfl⟩ := Operand.column?_eq_none_iff.mp rightBare
          exact (notValues leftValue rightValue rfl rfl).elim
  | .compare _ _ _ | .like _ _ _ | .isNull _ _ | .inList _ _ _ | .and _ _ | .or _ _ | .not _ =>
      .error (.unsupported nofun ..)

/-!
## Predicates
-/

theorem partnerSlot_fails (value : Value) (partner : Option ResolvedColumn) (coerced : Bool) :
    FailsAsPredicate misplaced (context.partnerSlot value partner coerced) := by
  unfold partnerSlot
  split
  · split
    · exact (value.coerce_fails ..).bind fun _ => context.slot_fails ..
    · exact context.slot_fails ..
  · exact context.slot_fails ..
  · exact context.slot_fails ..

theorem term_fails (operand : Operand) (partner : Option ResolvedColumn) (coerced : Bool) :
    FailsAsPredicate misplaced (context.term operand partner coerced) := by
  induction operand generalizing partner coerced with
  | value value => exact (context.partnerSlot_fails ..).bind fun _ => .ok _
  | column column => exact .ok _
  | computed op left right column leftIH rightIH =>
      exact (leftIH _ _).bind fun _ => (rightIH _ _).bind fun _ => .ok _

theorem comparison_fails (op : Relation) (left right : Expr) :
    FailsAsPredicate (¬(Expr.compare op left right).IsPredicate)
      (context.comparison op left right) := by
  refine ((context.operand_fails left).imp (mt fun formed => formed.compared.1)).bind
    fun leftOperand =>
      ((context.operand_fails right).imp (mt fun formed => formed.compared.2)).bind
        fun rightOperand => ?_
  split
  · exact (Value.compared_fails ..).bind fun _ => .ok _
  · exact (context.term_fails ..).bind fun _ => .ok _
  · exact (context.term_fails ..).bind fun _ => .ok _
  · exact (context.term_fails ..).bind fun _ => (context.term_fails ..).bind fun _ => .ok _

variable {context}

/-- What is classified as no column is no property. -/
theorem ne_property {expr : Expr} {operand : Operand}
    (classified : context.operand expr = .ok operand)
    (other : ∀ column, operand ≠ .column column) : ¬∃ name, expr = .property name := by
  rintro ⟨name, rfl⟩
  cases Classifies.sound classified with
  | property => exact other _ rfl

/-- What is classified as no value is no constant. -/
theorem not_isConstant {expr : Expr} {operand : Operand}
    (classified : context.operand expr = .ok operand)
    (other : ∀ value, operand ≠ .value value) : ¬expr.IsConstant := by
  intro constant
  obtain ⟨value, same⟩ := (Classifies.sound classified).of_columnFree constant.columnFree
  exact other value same

variable (context)

theorem likeMatch_fails (kind : TextSearch) (operand pattern : Expr) :
    FailsAsPredicate (¬(Expr.like kind operand pattern).IsPredicate)
      (context.likeMatch kind operand pattern) := by
  have operandFails := (context.operand_fails operand).imp
    (mt fun (formed : (Expr.like kind operand pattern).IsPredicate) => by
      obtain ⟨name, rfl⟩ := formed.searched.1
      exact .property)
  have patternFails := (context.operand_fails pattern).imp
    (mt fun (formed : (Expr.like kind operand pattern).IsPredicate) => formed.searched.2.isOperand)
  refine operandFails.bind_of fun classified operandOk => ?_
  split
  next column =>
    -- What follows the check of the column's type stands in two of its branches.
    extract_lets search
    have searched : ∀ checked, FailsAsPredicate _ (search checked) := fun _ => by
      refine patternFails.bind_of fun classified patternOk => ?_
      split
      · exact (context.partnerSlot_fails ..).bind fun _ => .ok _
      · exact .error (.typeMismatch ..)
      next notText notValue =>
        exact .error (.unsupported
          (mt (fun formed => formed.searched.2) (not_isConstant patternOk notValue)) ..)
    split
    · split
      · exact searched ()
      · exact .error (.typeMismatch ..)
    · exact searched ()
  next notColumn =>
    exact .error (.unsupported
      (mt (fun formed => formed.searched.1) (ne_property operandOk notColumn)) ..)

theorem nullTest_fails (negated : Bool) (operand : Expr) :
    FailsAsPredicate (¬(Expr.isNull negated operand).IsPredicate)
      (context.nullTest negated operand) := by
  refine ((context.operand_fails operand).imp (mt fun formed => formed.nullTested)).bind
    fun classified => ?_
  split
  · exact .ok _
  · exact (context.term_fails ..).bind fun _ => .ok _

theorem listItem_fails (column : ResolvedColumn) (item : Expr) :
    FailsAsPredicate (¬item.IsConstant) (context.listItem column item) := by
  refine ((context.operand_fails item).imp (mt fun formed => formed.isOperand)).bind_of
    fun classified itemOk => ?_
  split
  · exact context.partnerSlot_fails ..
  next notValue => exact .error (.unsupported (not_isConstant itemOk notValue) ..)

theorem membership_fails (negated : Bool) (operand : Expr) (items : List Expr) :
    FailsAsPredicate (¬(Expr.inList negated operand items).IsPredicate)
      (context.membership negated operand items) := by
  have operandFails := (context.operand_fails operand).imp
    (mt fun (formed : (Expr.inList negated operand items).IsPredicate) => by
      obtain ⟨name, rfl⟩ := formed.listed.1
      exact .property)
  refine operandFails.bind_of fun classified operandOk => ?_
  split
  next column =>
    split
    · exact .ok _
    · refine Result.FailsWith.bind (.mapM fun item member => ?_) fun _ => .ok _
      exact (context.listItem_fails column item).imp (mt fun formed => formed.listed.2 item member)
  next notColumn =>
    exact .error (.unsupported
      (mt (fun formed => formed.listed.1) (ne_property operandOk notColumn)) ..)

theorem propertyTruth_fails (property : String) :
    FailsAsPredicate misplaced (context.propertyTruth property) := by
  refine (context.column_fails property).bind fun column => ?_
  split
  · exact (context.partnerSlot_fails ..).bind fun _ => .ok _
  · exact (context.partnerSlot_fails ..).bind fun _ => .ok _
  · exact .error (.typeMismatch ..)

theorem captureTruth_fails (member : Expr) :
    FailsAsPredicate (¬member.IsCapture) (context.captureTruth member) := by
  refine (context.captureValue_fails member).bind fun value => ?_
  split
  · exact .ok _
  · exact .error (.typeMismatch ..)

/-- Of the validation errors, a predicate can only have that of a double without a literal. It is
called misplaced only if it is not formed by the grammar. -/
theorem condition_fails :
    (expr : Expr) → FailsAsPredicate (¬expr.IsPredicate) (context.condition expr)
  | .and left right =>
      ((condition_fails left).imp (mt fun formed => formed.conjuncts.1)).bind fun _ =>
        ((condition_fails right).imp (mt fun formed => formed.conjuncts.2)).bind fun _ => .ok _
  | .or left right =>
      ((condition_fails left).imp (mt fun formed => formed.disjuncts.1)).bind fun _ =>
        ((condition_fails right).imp (mt fun formed => formed.disjuncts.2)).bind fun _ => .ok _
  | .not operand =>
      ((condition_fails operand).imp (mt fun formed => formed.negated)).bind fun _ => .ok _
  | .compare op left right => context.comparison_fails op left right
  | .like kind operand pattern => context.likeMatch_fails kind operand pattern
  | .isNull negated operand => context.nullTest_fails negated operand
  | .inList negated operand items => context.membership_fails negated operand items
  | .literal value => by
      cases value <;> first | exact .ok _ | exact .error (.unsupported nofun ..)
  | .property name => context.propertyTruth_fails name
  | .captured name =>
      (context.captureTruth_fails (.captured name)).imp fun misplaced => absurd .captured misplaced
  | .field base name =>
      (context.captureTruth_fails (.field base name)).imp (mt Expr.IsPredicate.isCapture_field)
  | .arithmetic _ _ _ => .error (.unsupported nofun ..)

theorem filterFragment_fails (expr : Expr) :
    FailsAsPredicate (¬expr.IsPredicate) (context.filterFragment expr) := by
  refine Result.FailsWith.bind ?_ fun _ => .ok _
  exact (context.condition_fails expr).bind fun _ => .ok _

theorem orderFragment_fails (keys : SortOrder) :
    FailsAsPredicate misplaced (context.orderFragment keys) := by
  refine Result.FailsWith.bind (.mapM fun key _ => ?_) fun _ => .ok _
  exact (context.column_fails key.column).bind fun _ => .ok _

end Context

theorem Filter.fragment?_fails (filter : Filter) (settings : Settings) :
    FailsAsPredicate True (filter.fragment? settings) := by
  unfold fragment?
  split
  · exact ((Context.filterFragment_fails ..).imp fun _ => trivial).bind fun _ => .ok _
  · exact .ok none

/-!
## Accepted expressions
-/

namespace Clause

variable {settings : Settings} {scope : Option Scope} {entity : Option Entity}
  {before : Parameters} {expr : Expr}

theorem render_predicate_fails :
    FailsAsPredicate (¬expr.IsPredicate)
      ((predicate expr).render settings scope entity before) := by
  refine Result.FailsWith.bind ?_ fun _ => .ok _
  exact (Context.condition_fails _ expr).bind fun _ => .ok _

/-- An expression is accepted as a predicate exactly if the grammar forms it. What the grammar forms
is never called misplaced, in whatever surroundings, and what it does not form always fails. -/
theorem render_predicate_grammar :
    (expr.IsPredicate → ∀ kind position,
      (predicate expr).render settings scope entity before ≠
        .error (.unsupported kind position)) ∧
    (¬expr.IsPredicate →
      ∃ error, (predicate expr).render settings scope entity before = .error error) := by
  constructor
  · intro formed kind position failed
    cases render_predicate_fails.of_error failed with
    | unsupported misplaced => exact misplaced formed
  · intro misplaced
    cases rendered : (predicate expr).render settings scope entity before with
    | error error => exact ⟨error, rfl⟩
    | ok result =>
        obtain ⟨condition, lowered, _⟩ := render_predicate_eq_ok_iff.mp rendered
        exact absurd lowered.isPredicate misplaced

/-- A predicate with a member of a variable that is not there. -/
def sampleMember : Expr :=
  .and
    (.like .contains (.property "Name") (.arithmetic .add (.literal (.text "a")) (.captured "x")))
    (.inList true (.property "Id") [.field (.field (.captured "user") "key") "first"])

/-- A list with a column among its items, behind a test that holds. -/
def sampleColumnItem : Expr :=
  .or (.isNull false (.captured "x"))
    (.inList false (.property "Id") [.literal (.int32 1), .property "Other"])

theorem render_predicate_grammar_sampleMember :
    sampleMember.IsPredicate ∧
    (∀ kind position, (predicate sampleMember).render .standard none none .empty ≠
      .error (.unsupported kind position)) ∧
    (predicate sampleMember).render .standard none none .empty = .error (.unknownCapture "x") ∧
    ¬sampleColumnItem.IsPredicate ∧
    (∃ error, (predicate sampleColumnItem).render .standard (some (Scope.empty.bind "x" .null)) none
      .empty = .error error) := by
  have formed : sampleMember.IsPredicate := by
    refine .and (.like ⟨.arithmetic .literal (.capture .captured), rfl⟩) (.inList ?_)
    exact List.forall_mem_singleton.mpr ⟨.capture (.field (.field .captured)), rfl⟩
  have misplaced : ¬sampleColumnItem.IsPredicate := by
    intro formed
    have items := formed.disjuncts.2.listed.2
    have constant : (Expr.property "Other").IsConstant := items _ (by simp)
    cases constant.columnFree
  exact ⟨formed, render_predicate_grammar.1 formed, rfl, misplaced,
    render_predicate_grammar.2 misplaced⟩

end Clause

end QueryText
