import QueryText.Clause
import QueryText.Proofs.Fragment
import QueryText.Proofs.Result

/-!
# Rules of lowering

Lowering as three relations: how an expression is classified as an operand, which term an operand
becomes beside its partner, and which condition a predicate becomes. Each relation has one rule for
every way in which its function succeeds, and holds exactly when the function gives the result.
-/

set_option autoImplicit false

namespace QueryText.Context

/-!
## Operands
-/

/-- How an expression is classified. Whatever touches no column is folded to a value. -/
inductive Classifies (context : Context) : Expr → Operand → Prop where
  | literal {value : Value} : Classifies context (.literal value) (.value value)
  | property {name : String} {column : ResolvedColumn} :
      context.column name = .ok column → Classifies context (.property name) (.column column)
  | captured {name : String} {value : Value} :
      context.captureValue (.captured name) = .ok value →
      Classifies context (.captured name) (.value value)
  | field {base : Expr} {name : String} {value : Value} :
      context.captureValue (.field base name) = .ok value →
      Classifies context (.field base name) (.value value)
  | folded {op : ArithmeticOp} {left right : Expr} {leftValue rightValue value : Value} :
      Classifies context left (.value leftValue) → Classifies context right (.value rightValue) →
      Value.arithmetic op leftValue rightValue = .ok value →
      Classifies context (.arithmetic op left right) (.value value)
  | computed {op : ArithmeticOp} {left right : Expr} {leftOperand rightOperand : Operand}
      {column : ResolvedColumn} :
      Classifies context left leftOperand → Classifies context right rightOperand →
      leftOperand.column?.or rightOperand.column? = some column →
      Classifies context (.arithmetic op left right)
        (.computed op leftOperand rightOperand column)

theorem Classifies.complete {context : Context} {expr : Expr} {operand : Operand}
    (classified : context.Classifies expr operand) : context.operand expr = .ok operand := by
  induction classified with
  | literal => rfl
  | property found => simp [Context.operand, found, bind, Except.bind, pure, Except.pure]
  | captured found => simp [Context.operand, found, bind, Except.bind, pure, Except.pure]
  | field found => simp [Context.operand, found, bind, Except.bind, pure, Except.pure]
  | folded _ _ applied leftIH rightIH =>
      simp [Context.operand, leftIH, rightIH, applied, bind, Except.bind, pure, Except.pure]
  | @computed op left right leftOperand rightOperand column _ _ named leftIH rightIH =>
      simp only [Context.operand, leftIH, rightIH, bind, Except.bind]
      cases leftOperand with
      | value leftValue =>
          cases rightOperand with
          | value rightValue => cases named
          | column reference => simp only [named]
          | computed => simp only [named]
      | column reference => simp only [named]
      | computed => simp only [named]

theorem Classifies.sound {context : Context} {expr : Expr} {operand : Operand}
    (result : context.operand expr = .ok operand) : context.Classifies expr operand := by
  fun_induction context.operand expr generalizing operand with
  | case1 value => cases result; exact .literal
  | case2 name =>
      obtain ⟨column, found, result⟩ := Result.bind_eq_ok_iff.mp result
      cases result
      exact .property found
  | case3 name =>
      obtain ⟨value, found, result⟩ := Result.bind_eq_ok_iff.mp result
      cases result
      exact .captured found
  | case4 base name =>
      obtain ⟨value, found, result⟩ := Result.bind_eq_ok_iff.mp result
      cases result
      exact .field found
  | case5 op left right leftIH rightIH =>
      obtain ⟨leftOperand, leftOk, result⟩ := Result.bind_eq_ok_iff.mp result
      obtain ⟨rightOperand, rightOk, result⟩ := Result.bind_eq_ok_iff.mp result
      split at result
      · obtain ⟨value, applied, result⟩ := Result.bind_eq_ok_iff.mp result
        cases result
        exact .folded (leftIH leftOk) (rightIH rightOk) applied
      · split at result
        · next named =>
          cases result
          exact .computed (leftIH leftOk) (rightIH rightOk) named
        · cases result
  | case6 => cases result

theorem classifies_iff {context : Context} {expr : Expr} {operand : Operand} :
    context.Classifies expr operand ↔ context.operand expr = .ok operand :=
  ⟨Classifies.complete, Classifies.sound⟩

/-!
## Terms
-/

/-- Which term an operand becomes beside a partner. Values inside arithmetic are named after its
column and keep their own type. -/
inductive Writes (context : Context) : Operand → Option ResolvedColumn → Bool → Term → Prop where
  | value {value : Value} {partner : Option ResolvedColumn} {coerced : Bool} {slot : Slot} :
      context.partnerSlot value partner coerced = .ok slot →
      Writes context (.value value) partner coerced (.slot slot)
  | column {column : ResolvedColumn} {partner : Option ResolvedColumn} {coerced : Bool} :
      Writes context (.column column) partner coerced (.column column.name)
  | computed {op : ArithmeticOp} {left right : Operand} {column : ResolvedColumn}
      {partner : Option ResolvedColumn} {coerced : Bool} {leftTerm rightTerm : Term} :
      Writes context left (some column) false leftTerm →
      Writes context right (some column) false rightTerm →
      Writes context (.computed op left right column) partner coerced
        (.arithmetic op leftTerm rightTerm)

theorem writes_iff {context : Context} {operand : Operand} {partner : Option ResolvedColumn}
    {coerced : Bool} {term : Term} :
    context.Writes operand partner coerced term ↔
      context.term operand partner coerced = .ok term := by
  constructor
  · intro written
    induction written with
    | value found => simp [Context.term, found, bind, Except.bind, pure, Except.pure]
    | column => rfl
    | computed _ _ leftIH rightIH =>
        simp [Context.term, leftIH, rightIH, bind, Except.bind, pure, Except.pure]
  · intro result
    induction operand generalizing partner coerced term with
    | value value =>
        obtain ⟨slot, found, result⟩ := Result.bind_eq_ok_iff.mp result
        cases result
        exact .value found
    | column column => cases result; exact .column
    | computed op left right column leftIH rightIH =>
        obtain ⟨leftTerm, leftOk, result⟩ := Result.bind_eq_ok_iff.mp result
        obtain ⟨rightTerm, rightOk, result⟩ := Result.bind_eq_ok_iff.mp result
        cases result
        exact .computed (leftIH leftOk) (rightIH rightOk)

/-!
## Conditions
-/

def ItemSlot (context : Context) (column : ResolvedColumn) (item : Expr) (slot : Slot) : Prop :=
  ∃ value, context.Classifies item (.value value) ∧
    context.partnerSlot value (some column) true = .ok slot

/-- Which condition a predicate becomes. -/
inductive Lowers (context : Context) : Expr → Condition → Prop where
  | and {left right : Expr} {leftCondition rightCondition : Condition} :
      Lowers context left leftCondition → Lowers context right rightCondition →
      Lowers context (.and left right) (.and leftCondition rightCondition)
  | or {left right : Expr} {leftCondition rightCondition : Condition} :
      Lowers context left leftCondition → Lowers context right rightCondition →
      Lowers context (.or left right) (.or leftCondition rightCondition)
  | not {operand : Expr} {condition : Condition} :
      Lowers context operand condition → Lowers context (.not operand) (.not condition)
  | truth {holds : Bool} : Lowers context (.literal (.bool holds)) (.truth holds)
  | property {name : String} {column : ResolvedColumn} {slot : Slot} :
      context.column name = .ok column →
      column.dataType = none ∨ column.dataType = some .boolean →
      context.partnerSlot (.bool true) (some column) true = .ok slot →
      Lowers context (.property name) (.comparison .eq (.column column.name) (.slot slot))
  | captured {name : String} {holds : Bool} :
      context.captureValue (.captured name) = .ok (.bool holds) →
      Lowers context (.captured name) (.truth holds)
  | field {base : Expr} {name : String} {holds : Bool} :
      context.captureValue (.field base name) = .ok (.bool holds) →
      Lowers context (.field base name) (.truth holds)
  | decided {op : Relation} {left right : Expr} {leftValue rightValue : Value} {holds : Bool} :
      context.Classifies left (.value leftValue) → context.Classifies right (.value rightValue) →
      Value.compared op leftValue rightValue = .ok holds →
      Lowers context (.compare op left right) (.truth holds)
  | nullLeft {op : Relation} {left right : Expr} {other : Operand} {term : Term} :
      context.Classifies left (.value .null) → context.Classifies right other →
      other.column?.isSome = true → context.Writes other none false term →
      Lowers context (.compare op left right) (.nullTest (op == .ne) term)
  | nullRight {op : Relation} {left right : Expr} {other : Operand} {term : Term} :
      context.Classifies left other → context.Classifies right (.value .null) →
      other.column?.isSome = true → context.Writes other none false term →
      Lowers context (.compare op left right) (.nullTest (op == .ne) term)
  | compared {op : Relation} {left right : Expr} {leftOperand rightOperand : Operand}
      {leftTerm rightTerm : Term} :
      context.Classifies left leftOperand → context.Classifies right rightOperand →
      leftOperand ≠ .value .null → rightOperand ≠ .value .null →
      (leftOperand.column?.or rightOperand.column?).isSome = true →
      context.Writes leftOperand rightOperand.column? true leftTerm →
      context.Writes rightOperand leftOperand.column? true rightTerm →
      Lowers context (.compare op left right) (.comparison op leftTerm rightTerm)
  | like {kind : TextSearch} {operand pattern : Expr} {column : ResolvedColumn} {text : String}
      {slot : Slot} :
      context.Classifies operand (.column column) →
      column.dataType = none ∨ column.dataType = some .string →
      context.Classifies pattern (.value (.text text)) →
      context.partnerSlot (.text (kind.apply text)) (some column) true = .ok slot →
      Lowers context (.like kind operand pattern) (.like column.name slot)
  | valueTest {negated : Bool} {operand : Expr} {value : Value} :
      context.Classifies operand (.value value) →
      Lowers context (.isNull negated operand) (.truth (value.isNull != negated))
  | nullTest {negated : Bool} {operand : Expr} {other : Operand} {term : Term} :
      context.Classifies operand other → other.column?.isSome = true →
      context.Writes other none false term →
      Lowers context (.isNull negated operand) (.nullTest negated term)
  | emptyList {negated : Bool} {operand : Expr} {column : ResolvedColumn} :
      context.Classifies operand (.column column) →
      Lowers context (.inList negated operand []) (.truth negated)
  | list {negated : Bool} {operand : Expr} {column : ResolvedColumn} {items : List Expr}
      {slots : List Slot} :
      context.Classifies operand (.column column) → items ≠ [] →
      List.Forall₂ (context.ItemSlot column) items slots →
      Lowers context (.inList negated operand items) (.inList negated column.name slots)

theorem itemSlot_iff {context : Context} {column : ResolvedColumn} {item : Expr} {slot : Slot} :
    context.ItemSlot column item slot ↔ context.listItem column item = .ok slot := by
  unfold ItemSlot listItem
  rw [Result.bind_eq_ok_iff]
  constructor
  · intro given
    obtain ⟨value, classified, placed⟩ := given
    exact ⟨.value value, classified.complete, placed⟩
  · intro given
    obtain ⟨operand, classified, result⟩ := given
    split at result
    · next value => exact ⟨value, .sound classified, result⟩
    · cases result

private theorem comparison_sound {context : Context} {op : Relation} {left right : Expr}
    {condition : Condition} (result : context.comparison op left right = .ok condition) :
    context.Lowers (.compare op left right) condition := by
  unfold comparison at result
  obtain ⟨leftOperand, leftOk, result⟩ := Result.bind_eq_ok_iff.mp result
  obtain ⟨rightOperand, rightOk, result⟩ := Result.bind_eq_ok_iff.mp result
  have leftClassified := Classifies.sound leftOk
  have rightClassified := Classifies.sound rightOk
  split at result
  · obtain ⟨holds, compared, result⟩ := Result.bind_eq_ok_iff.mp result
    cases result
    exact .decided leftClassified rightClassified compared
  · next notValues =>
    obtain ⟨term, written, result⟩ := Result.bind_eq_ok_iff.mp result
    cases result
    refine .nullLeft leftClassified rightClassified ?_ (writes_iff.mpr written)
    cases rightOperand with
    | value value => exact (notValues value rfl).elim
    | column | computed => rfl
  · next notValues =>
    obtain ⟨term, written, result⟩ := Result.bind_eq_ok_iff.mp result
    cases result
    refine .nullRight leftClassified rightClassified ?_ (writes_iff.mpr written)
    cases leftOperand with
    | value value => exact (notValues value rfl).elim
    | column | computed => rfl
  · next leftNotNull rightNotNull notValues =>
    obtain ⟨leftTerm, leftWritten, result⟩ := Result.bind_eq_ok_iff.mp result
    obtain ⟨rightTerm, rightWritten, result⟩ := Result.bind_eq_ok_iff.mp result
    cases result
    refine .compared leftClassified rightClassified leftNotNull rightNotNull ?_
      (writes_iff.mpr leftWritten) (writes_iff.mpr rightWritten)
    cases leftOperand with
    | value leftValue =>
        cases rightOperand with
        | value rightValue => exact (notValues leftValue rightValue rfl rfl).elim
        | column | computed => rfl
    | column | computed => rfl

private theorem likeMatch_sound {context : Context} {kind : TextSearch} {operand pattern : Expr}
    {condition : Condition} (result : context.likeMatch kind operand pattern = .ok condition) :
    context.Lowers (.like kind operand pattern) condition := by
  unfold likeMatch at result
  obtain ⟨operandClass, operandOk, result⟩ := Result.bind_eq_ok_iff.mp result
  split at result
  · next column =>
    have typed : column.dataType = none ∨ column.dataType = some .string := by
      cases declared : column.dataType with
      | none => exact .inl rfl
      | some dataType =>
          by_cases text : dataType = .string
          · exact .inr (by rw [text])
          · simp [declared, text, throw, throwThe, MonadExceptOf.throw, bind, Except.bind]
              at result
    rcases typed with declared | declared
    all_goals
      simp only [declared, ↓reduceIte] at result
      obtain ⟨patternClass, patternOk, result⟩ := Result.bind_eq_ok_iff.mp result
      split at result
      · obtain ⟨slot, placed, result⟩ := Result.bind_eq_ok_iff.mp result
        cases result
        exact .like (.sound operandOk) (by simp [declared]) (.sound patternOk) placed
      · cases result
      · cases result
  · cases result

private theorem nullTest_sound {context : Context} {negated : Bool} {operand : Expr}
    {condition : Condition} (result : context.nullTest negated operand = .ok condition) :
    context.Lowers (.isNull negated operand) condition := by
  unfold nullTest at result
  obtain ⟨operandClass, operandOk, result⟩ := Result.bind_eq_ok_iff.mp result
  split at result
  · cases result
    exact .valueTest (.sound operandOk)
  · next notValue =>
    obtain ⟨term, written, result⟩ := Result.bind_eq_ok_iff.mp result
    cases result
    refine .nullTest (.sound operandOk) ?_ (writes_iff.mpr written)
    cases operandClass with
    | value value => exact absurd rfl (notValue value)
    | column | computed => rfl

private theorem membership_sound {context : Context} {negated : Bool} {operand : Expr}
    {items : List Expr} {condition : Condition}
    (result : context.membership negated operand items = .ok condition) :
    context.Lowers (.inList negated operand items) condition := by
  unfold membership at result
  obtain ⟨operandClass, operandOk, result⟩ := Result.bind_eq_ok_iff.mp result
  split at result
  · next column =>
    cases items with
    | nil =>
        cases result
        exact .emptyList (.sound operandOk)
    | cons item rest =>
        obtain ⟨slots, placed, result⟩ := Result.bind_eq_ok_iff.mp result
        cases result
        refine .list (.sound operandOk) (List.cons_ne_nil item rest) ?_
        exact (Result.mapM_eq_ok_iff.mp placed).imp fun _ _ placed => itemSlot_iff.mpr placed
  · cases result

private theorem propertyTruth_sound {context : Context} {name : String} {condition : Condition}
    (result : context.propertyTruth name = .ok condition) :
    context.Lowers (.property name) condition := by
  unfold propertyTruth at result
  obtain ⟨column, found, result⟩ := Result.bind_eq_ok_iff.mp result
  split at result
  · next declared =>
    obtain ⟨slot, placed, result⟩ := Result.bind_eq_ok_iff.mp result
    cases result
    exact .property found (.inl declared) placed
  · next declared =>
    obtain ⟨slot, placed, result⟩ := Result.bind_eq_ok_iff.mp result
    cases result
    exact .property found (.inr declared) placed
  · cases result

private theorem captureTruth_sound {context : Context} {member : Expr} {condition : Condition}
    (result : context.captureTruth member = .ok condition) :
    ∃ holds, context.captureValue member = .ok (.bool holds) ∧ condition = .truth holds := by
  unfold captureTruth at result
  obtain ⟨value, captured, result⟩ := Result.bind_eq_ok_iff.mp result
  split at result
  · next holds =>
    cases result
    exact ⟨holds, captured, rfl⟩
  · cases result

theorem Lowers.sound {context : Context} {expr : Expr} {condition : Condition}
    (result : context.condition expr = .ok condition) : context.Lowers expr condition := by
  fun_induction context.condition expr generalizing condition with
  | case1 left right leftIH rightIH =>
      obtain ⟨leftCondition, leftOk, result⟩ := Result.bind_eq_ok_iff.mp result
      obtain ⟨rightCondition, rightOk, result⟩ := Result.bind_eq_ok_iff.mp result
      cases result
      exact .and (leftIH leftOk) (rightIH rightOk)
  | case2 left right leftIH rightIH =>
      obtain ⟨leftCondition, leftOk, result⟩ := Result.bind_eq_ok_iff.mp result
      obtain ⟨rightCondition, rightOk, result⟩ := Result.bind_eq_ok_iff.mp result
      cases result
      exact .or (leftIH leftOk) (rightIH rightOk)
  | case3 operand ih =>
      obtain ⟨operandCondition, operandOk, result⟩ := Result.bind_eq_ok_iff.mp result
      cases result
      exact .not (ih operandOk)
  | case4 => exact comparison_sound result
  | case5 => exact likeMatch_sound result
  | case6 => exact nullTest_sound result
  | case7 => exact membership_sound result
  | case8 => cases result; exact .truth
  | case9 => cases result
  | case10 => exact propertyTruth_sound result
  | case11 name =>
      obtain ⟨holds, captured, rfl⟩ := captureTruth_sound result
      exact .captured captured
  | case12 base name =>
      obtain ⟨holds, captured, rfl⟩ := captureTruth_sound result
      exact .field captured
  | case13 => cases result

private theorem comparison_nullLeft {context : Context} {op : Relation} {left right : Expr}
    {other : Operand} {term : Term} (leftOk : context.operand left = .ok (.value .null))
    (rightOk : context.operand right = .ok other) (bears : other.column?.isSome = true)
    (written : context.term other none false = .ok term) :
    context.comparison op left right = .ok (.nullTest (op == .ne) term) := by
  cases other with
  | value value => cases bears
  | column | computed =>
      simp [comparison, leftOk, rightOk, written, bind, Except.bind, pure, Except.pure]

private theorem comparison_nullRight {context : Context} {op : Relation} {left right : Expr}
    {other : Operand} {term : Term} (leftOk : context.operand left = .ok other)
    (rightOk : context.operand right = .ok (.value .null)) (bears : other.column?.isSome = true)
    (written : context.term other none false = .ok term) :
    context.comparison op left right = .ok (.nullTest (op == .ne) term) := by
  cases other with
  | value value => cases bears
  | column | computed =>
      simp [comparison, leftOk, rightOk, written, bind, Except.bind, pure, Except.pure]

private theorem comparison_compared {context : Context} {op : Relation} {left right : Expr}
    {leftOperand rightOperand : Operand} {leftTerm rightTerm : Term}
    (leftOk : context.operand left = .ok leftOperand)
    (rightOk : context.operand right = .ok rightOperand)
    (leftNotNull : leftOperand ≠ .value .null) (rightNotNull : rightOperand ≠ .value .null)
    (bears : (leftOperand.column?.or rightOperand.column?).isSome = true)
    (leftWritten : context.term leftOperand rightOperand.column? true = .ok leftTerm)
    (rightWritten : context.term rightOperand leftOperand.column? true = .ok rightTerm) :
    context.comparison op left right = .ok (.comparison op leftTerm rightTerm) := by
  unfold comparison
  simp only [leftOk, rightOk, bind, Except.bind]
  split
  · cases bears
  · exact absurd rfl leftNotNull
  · exact absurd rfl rightNotNull
  · simp only [leftWritten, rightWritten, pure, Except.pure]

theorem Lowers.complete {context : Context} {expr : Expr} {condition : Condition}
    (lowered : context.Lowers expr condition) : context.condition expr = .ok condition := by
  induction lowered with
  | and _ _ leftIH rightIH =>
      simp [Context.condition, leftIH, rightIH, bind, Except.bind, pure, Except.pure]
  | or _ _ leftIH rightIH =>
      simp [Context.condition, leftIH, rightIH, bind, Except.bind, pure, Except.pure]
  | not _ ih => simp [Context.condition, ih, bind, Except.bind, pure, Except.pure]
  | truth => rfl
  | property found typed placed =>
      rcases typed with declared | declared <;>
        simp [Context.condition, propertyTruth, found, declared, placed, bind, Except.bind, pure,
          Except.pure]
  | captured captured =>
      simp [Context.condition, captureTruth, captured, bind, Except.bind, pure, Except.pure]
  | field captured =>
      simp [Context.condition, captureTruth, captured, bind, Except.bind, pure, Except.pure]
  | decided left right compared =>
      simp [Context.condition, comparison, left.complete, right.complete, compared, bind,
        Except.bind, pure, Except.pure]
  | nullLeft left right bears written =>
      exact comparison_nullLeft left.complete right.complete bears (writes_iff.mp written)
  | nullRight left right bears written =>
      exact comparison_nullRight left.complete right.complete bears (writes_iff.mp written)
  | compared left right leftNotNull rightNotNull bears leftWritten rightWritten =>
      exact comparison_compared left.complete right.complete leftNotNull rightNotNull bears
        (writes_iff.mp leftWritten) (writes_iff.mp rightWritten)
  | like operand typed pattern placed =>
      rcases typed with declared | declared <;>
        simp [Context.condition, likeMatch, operand.complete, declared, pattern.complete, placed,
          bind, Except.bind, pure, Except.pure]
  | valueTest operand =>
      simp [Context.condition, Context.nullTest, operand.complete, bind, Except.bind, pure,
        Except.pure]
  | @nullTest negated operand other term classified bears written =>
      cases other with
      | value value => cases bears
      | column | computed =>
          simp [Context.condition, Context.nullTest, classified.complete, writes_iff.mp written,
            bind, Except.bind, pure, Except.pure]
  | emptyList operand =>
      simp [Context.condition, membership, operand.complete, bind, Except.bind, pure, Except.pure]
  | @list negated operand column items slots classified filled placed =>
      have mapped : items.mapM (context.listItem column) = .ok slots :=
        Result.mapM_eq_ok_iff.mpr (placed.imp fun _ _ placed => itemSlot_iff.mp placed)
      have nonempty : items.isEmpty = false := List.isEmpty_eq_false_iff.mpr filled
      simp [Context.condition, membership, classified.complete, nonempty, mapped, bind,
        Except.bind, pure, Except.pure]

/-- The rules describe lowering exactly. -/
theorem lowers_iff {context : Context} {expr : Expr} {condition : Condition} :
    context.Lowers expr condition ↔ context.condition expr = .ok condition :=
  ⟨Lowers.complete, Lowers.sound⟩

section Connectives

variable {context : Context} {left right operand : Expr} {condition : Condition}

theorem lowers_and_iff :
    context.Lowers (.and left right) condition ↔
      ∃ leftCondition rightCondition, context.Lowers left leftCondition ∧
        context.Lowers right rightCondition ∧ .and leftCondition rightCondition = condition := by
  constructor
  · intro lowered
    cases lowered with
    | and leftLowered rightLowered => exact ⟨_, _, leftLowered, rightLowered, rfl⟩
  · rintro ⟨_, _, leftLowered, rightLowered, rfl⟩
    exact .and leftLowered rightLowered

theorem lowers_or_iff :
    context.Lowers (.or left right) condition ↔
      ∃ leftCondition rightCondition, context.Lowers left leftCondition ∧
        context.Lowers right rightCondition ∧ .or leftCondition rightCondition = condition := by
  constructor
  · intro lowered
    cases lowered with
    | or leftLowered rightLowered => exact ⟨_, _, leftLowered, rightLowered, rfl⟩
  · rintro ⟨_, _, leftLowered, rightLowered, rfl⟩
    exact .or leftLowered rightLowered

theorem lowers_not_iff :
    context.Lowers (.not operand) condition ↔
      ∃ inner, context.Lowers operand inner ∧ .not inner = condition := by
  constructor
  · intro lowered
    cases lowered with
    | not operandLowered => exact ⟨_, operandLowered, rfl⟩
  · rintro ⟨_, operandLowered, rfl⟩
    exact .not operandLowered

end Connectives

/-!
## Slots of a condition
-/

def Places (context : Context) (slot : Slot) : Prop :=
  ∃ value partner coerced, context.partnerSlot value partner coerced = .ok slot

theorem Places.intro {context : Context} {value : Value} {partner : Option ResolvedColumn}
    {coerced : Bool} {slot : Slot} (placed : context.partnerSlot value partner coerced = .ok slot) :
    context.Places slot :=
  ⟨value, partner, coerced, placed⟩

theorem Writes.slots_placed {context : Context} {operand : Operand}
    {partner : Option ResolvedColumn} {coerced : Bool} {term : Term}
    (written : context.Writes operand partner coerced term) :
    ∀ slot ∈ term.fragment.slots, context.Places slot := by
  induction written with
  | value placed => simpa [Term.fragment] using Places.intro placed
  | column => simp [Term.fragment]
  | computed _ _ leftIH rightIH =>
      intro slot member
      simp only [Term.fragment, Fragment.slots_parenthesized, Fragment.slots_append,
        Fragment.slots_fixed, List.mem_append] at member
      exact member.elim (leftIH slot) (rightIH slot)

private theorem itemSlots_placed {context : Context} {column : ResolvedColumn} {items : List Expr}
    {slots : List Slot} (placed : List.Forall₂ (context.ItemSlot column) items slots) :
    ∀ slot ∈ slots, context.Places slot := by
  induction placed with
  | nil => simp
  | cons first _ ih =>
      obtain ⟨value, _, placed⟩ := first
      exact List.forall_mem_cons.mpr ⟨.intro placed, ih⟩

theorem Lowers.slots_placed {context : Context} {expr : Expr} {condition : Condition}
    (lowered : context.Lowers expr condition) :
    ∀ slot ∈ condition.fragment.slots, context.Places slot := by
  induction lowered with
  | and _ _ leftIH rightIH | or _ _ leftIH rightIH =>
      intro slot member
      simp only [Condition.fragment, Fragment.slots_parenthesized, Fragment.slots_append,
        Fragment.slots_fixed, List.mem_append] at member
      exact member.elim (leftIH slot) (rightIH slot)
  | not _ ih => simpa [Condition.fragment] using ih
  | truth | captured | field | decided | valueTest | emptyList => simp [Condition.fragment]
  | property _ _ placed => simpa [Condition.fragment, Term.fragment] using Places.intro placed
  | nullLeft _ _ _ written | nullRight _ _ _ written | nullTest _ _ written =>
      simpa [Condition.fragment] using written.slots_placed
  | compared _ _ _ _ _ leftWritten rightWritten =>
      intro slot member
      simp only [Condition.fragment, Fragment.slots_append, Fragment.slots_fixed,
        List.mem_append] at member
      exact member.elim (leftWritten.slots_placed slot) (rightWritten.slots_placed slot)
  | like _ _ _ placed => simpa [Condition.fragment] using Places.intro placed
  | list _ _ placed => simpa [Condition.fragment] using itemSlots_placed placed

/-!
## Transfer between surroundings
-/

/-- What one surrounding finds another finds too, as far as the placed slots are admitted. -/
structure Follows (source target : Context) (admitted : Slot → Prop) : Prop where
  column : ∀ name column, source.column name = .ok column → target.column name = .ok column
  captured : ∀ member value, source.captureValue member = .ok value →
    target.captureValue member = .ok value
  placed : ∀ value partner coerced slot, admitted slot →
    source.partnerSlot value partner coerced = .ok slot →
    target.partnerSlot value partner coerced = .ok slot

variable {source target : Context} {admitted : Slot → Prop}

theorem Classifies.transfer (follows : source.Follows target admitted) {expr : Expr}
    {operand : Operand} (classified : source.Classifies expr operand) :
    target.Classifies expr operand := by
  induction classified with
  | literal => exact .literal
  | property found => exact .property (follows.column _ _ found)
  | captured found => exact .captured (follows.captured _ _ found)
  | field found => exact .field (follows.captured _ _ found)
  | folded _ _ applied leftIH rightIH => exact .folded leftIH rightIH applied
  | computed _ _ named leftIH rightIH => exact .computed leftIH rightIH named

theorem Writes.transfer (follows : source.Follows target admitted) {operand : Operand}
    {partner : Option ResolvedColumn} {coerced : Bool} {term : Term}
    (written : source.Writes operand partner coerced term)
    (allowed : ∀ slot ∈ term.fragment.slots, admitted slot) :
    target.Writes operand partner coerced term := by
  induction written with
  | value placed =>
      exact .value (follows.placed _ _ _ _ (allowed _ (by simp [Term.fragment])) placed)
  | column => exact .column
  | computed _ _ leftIH rightIH =>
      simp only [Term.fragment, Fragment.slots_parenthesized, Fragment.slots_append,
        Fragment.slots_fixed, List.forall_mem_append] at allowed
      exact .computed (leftIH allowed.1) (rightIH allowed.2)

private theorem itemSlots_transfer (follows : source.Follows target admitted)
    {column : ResolvedColumn} {items : List Expr} {slots : List Slot}
    (placed : List.Forall₂ (source.ItemSlot column) items slots)
    (allowed : ∀ slot ∈ slots, admitted slot) :
    List.Forall₂ (target.ItemSlot column) items slots := by
  induction placed with
  | nil => exact .nil
  | cons first _ ih =>
      obtain ⟨value, classified, placed⟩ := first
      obtain ⟨firstAllowed, restAllowed⟩ := List.forall_mem_cons.mp allowed
      exact .cons ⟨value, classified.transfer follows,
        follows.placed _ _ _ _ firstAllowed placed⟩ (ih restAllowed)

theorem Lowers.transfer (follows : source.Follows target admitted) {expr : Expr}
    {condition : Condition} (lowered : source.Lowers expr condition)
    (allowed : ∀ slot ∈ condition.fragment.slots, admitted slot) :
    target.Lowers expr condition := by
  induction lowered with
  | and _ _ leftIH rightIH =>
      simp only [Condition.fragment, Fragment.slots_parenthesized, Fragment.slots_append,
        Fragment.slots_fixed, List.forall_mem_append] at allowed
      exact .and (leftIH allowed.1) (rightIH allowed.2)
  | or _ _ leftIH rightIH =>
      simp only [Condition.fragment, Fragment.slots_parenthesized, Fragment.slots_append,
        Fragment.slots_fixed, List.forall_mem_append] at allowed
      exact .or (leftIH allowed.1) (rightIH allowed.2)
  | not _ ih => exact .not (ih (by simpa [Condition.fragment] using allowed))
  | truth => exact .truth
  | @property name column slot found typed placed =>
      have placeable := allowed slot (by simp [Condition.fragment, Term.fragment])
      exact .property (follows.column _ _ found) typed (follows.placed _ _ _ _ placeable placed)
  | captured found => exact .captured (follows.captured _ _ found)
  | field found => exact .field (follows.captured _ _ found)
  | decided left right compared =>
      exact .decided (left.transfer follows) (right.transfer follows) compared
  | nullLeft left right bears written =>
      exact .nullLeft (left.transfer follows) (right.transfer follows) bears
        (written.transfer follows (by simpa [Condition.fragment] using allowed))
  | nullRight left right bears written =>
      exact .nullRight (left.transfer follows) (right.transfer follows) bears
        (written.transfer follows (by simpa [Condition.fragment] using allowed))
  | compared left right leftNotNull rightNotNull bears leftWritten rightWritten =>
      simp only [Condition.fragment, Fragment.slots_append, Fragment.slots_fixed,
        List.forall_mem_append] at allowed
      exact .compared (left.transfer follows) (right.transfer follows) leftNotNull rightNotNull
        bears (leftWritten.transfer follows allowed.1) (rightWritten.transfer follows allowed.2)
  | @like kind _ _ column text slot operand typed pattern placed =>
      have placeable := allowed slot (by simp [Condition.fragment])
      exact .like (operand.transfer follows) typed (pattern.transfer follows)
        (follows.placed _ _ _ _ placeable placed)
  | valueTest operand => exact .valueTest (operand.transfer follows)
  | nullTest operand bears written =>
      exact .nullTest (operand.transfer follows) bears
        (written.transfer follows (by simpa [Condition.fragment] using allowed))
  | emptyList operand => exact .emptyList (operand.transfer follows)
  | list operand filled placed =>
      exact .list (operand.transfer follows) filled
        (itemSlots_transfer follows placed (by simpa [Condition.fragment] using allowed))

end QueryText.Context

namespace QueryText.Clause

variable {settings : Settings} {scope : Option Scope} {entity : Option Entity} {expr : Expr}
  {before after : Parameters} {text : String}

/-- Rendering a clause is writing its fragment behind the parameters there are. -/
theorem render_eq (clause : Clause) :
    clause.render settings scope entity before =
      ((settings.context scope entity).clauseFragment clause).map fun fragment =>
        (fragment.text settings before.size, fragment.bind settings before) := by
  unfold render
  cases (settings.context scope entity).clauseFragment clause <;> rfl

/-- Rendering a predicate is lowering it and writing its condition. -/
theorem render_predicate_eq (expr : Expr) :
    (predicate expr).render settings scope entity before =
      ((settings.context scope entity).condition expr).map fun condition =>
        (condition.fragment.text settings before.size,
          condition.fragment.bind settings before) := by
  rw [render_eq, Context.clauseFragment, Context.predicateFragment]
  cases (settings.context scope entity).condition expr <;> rfl

/-- A predicate is rendered as the condition that it becomes, written behind the parameters there
are. -/
theorem render_predicate_eq_ok_iff :
    (predicate expr).render settings scope entity before = .ok (text, after) ↔
      ∃ condition, (settings.context scope entity).Lowers expr condition ∧
        condition.fragment.text settings before.size = text ∧
        condition.fragment.bind settings before = after := by
  simp only [render, Context.clauseFragment, Context.predicateFragment, Result.bind_eq_ok_iff,
    Result.pure_eq_ok_iff, exists_exists_and_eq_and, Prod.mk.injEq, Context.lowers_iff]

end QueryText.Clause
