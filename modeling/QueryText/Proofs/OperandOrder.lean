import QueryText.Proofs.HostArithmetic
import QueryText.Proofs.Instantiation

/-!
# Order of operands

What the order of a sum or a product decides. A value that is compared with column arithmetic takes
the declared type of its leftmost column, so the order decides which type that is, and by that
whether the value fits. Nothing else about a predicate depends on the order: with the operands
swapped it is accepted exactly if its values fit the columns that are leftmost now.
-/

set_option autoImplicit false

namespace QueryText

/-!
## Reordered predicates
-/

/-- Whether an operand is another one with the sides of any of its sums and products swapped. -/
inductive Expr.Swapped : Expr → Expr → Prop where
  | same (expr : Expr) : Swapped expr expr
  | swap {op : ArithmeticOp} {left right otherLeft otherRight : Expr} :
      op.Commutes → Swapped left otherLeft → Swapped right otherRight →
      Swapped (.arithmetic op left right) (.arithmetic op otherRight otherLeft)
  | arithmetic {op : ArithmeticOp} {left right otherLeft otherRight : Expr} :
      Swapped left otherLeft → Swapped right otherRight →
      Swapped (.arithmetic op left right) (.arithmetic op otherLeft otherRight)

/-- Whether a predicate is another one with operands of its comparisons swapped inside. -/
inductive Expr.Reordered : Expr → Expr → Prop where
  | same (expr : Expr) : Reordered expr expr
  | and {left right otherLeft otherRight : Expr} :
      Reordered left otherLeft → Reordered right otherRight →
      Reordered (.and left right) (.and otherLeft otherRight)
  | or {left right otherLeft otherRight : Expr} :
      Reordered left otherLeft → Reordered right otherRight →
      Reordered (.or left right) (.or otherLeft otherRight)
  | not {operand other : Expr} : Reordered operand other → Reordered (.not operand) (.not other)
  | compare {op : Relation} {left right otherLeft otherRight : Expr} :
      Swapped left otherLeft → Swapped right otherRight →
      Reordered (.compare op left right) (.compare op otherLeft otherRight)

/-- Whether one side of a comparison, if it is a value, can be written beside the leftmost column
of the other side. -/
def Context.FitsBeside (context : Context) (side other : Expr) : Prop :=
  ∀ value name column, context.operand side = .ok (.value value) →
    other.properties.head? = some name → context.column name = .ok column →
    ∃ slot, context.partnerSlot value (some column) true = .ok slot

/-- Whether all values of a predicate fit the leftmost columns that they are compared with. -/
def Expr.Fits (context : Context) : Expr → Prop
  | .and left right | .or left right => left.Fits context ∧ right.Fits context
  | .not operand => operand.Fits context
  | .compare _ left right => context.FitsBeside left right ∧ context.FitsBeside right left
  | _ => True

namespace Expr

variable {expr other : Expr}

theorem Swapped.symm (swapped : expr.Swapped other) : other.Swapped expr := by
  induction swapped with
  | same expr => exact .same expr
  | swap commutes _ _ leftIH rightIH => exact .swap commutes rightIH leftIH
  | arithmetic _ _ leftIH rightIH => exact .arithmetic leftIH rightIH

theorem Reordered.symm (reordered : expr.Reordered other) : other.Reordered expr := by
  induction reordered with
  | same expr => exact .same expr
  | and _ _ leftIH rightIH => exact .and leftIH rightIH
  | or _ _ leftIH rightIH => exact .or leftIH rightIH
  | not _ ih => exact .not ih
  | compare left right => exact .compare left.symm right.symm

theorem Swapped.mem_properties (swapped : expr.Swapped other) {name : String} :
    name ∈ other.properties ↔ name ∈ expr.properties := by
  induction swapped with
  | same => exact Iff.rfl
  | swap _ _ _ leftIH rightIH =>
      rw [properties, properties, List.mem_append, List.mem_append, leftIH, rightIH, or_comm]
  | arithmetic _ _ leftIH rightIH =>
      rw [properties, properties, List.mem_append, List.mem_append, leftIH, rightIH]

theorem Reordered.mem_properties (reordered : expr.Reordered other) {name : String} :
    name ∈ other.properties ↔ name ∈ expr.properties := by
  induction reordered with
  | same => exact Iff.rfl
  | and _ _ leftIH rightIH | or _ _ leftIH rightIH =>
      rw [properties, properties, List.mem_append, List.mem_append, leftIH, rightIH]
  | not _ ih => exact ih
  | compare left right =>
      rw [properties, properties, List.mem_append, List.mem_append, left.mem_properties,
        right.mem_properties]

end Expr

/-!
## Alike operands
-/

/-- Whether two operands are the same up to the order of their sides, their texts and the columns
that they lend. -/
inductive Operand.Alike : Operand → Operand → Prop where
  | value {value other : Value} : value.Alike other → Alike (.value value) (.value other)
  | column (column : ResolvedColumn) : Alike (.column column) (.column column)
  | swap {op : ArithmeticOp} {left right otherLeft otherRight : Operand}
      {column other : ResolvedColumn} :
      Alike left otherLeft → Alike right otherRight →
      Alike (.computed op left right column) (.computed op otherRight otherLeft other)
  | computed {op : ArithmeticOp} {left right otherLeft otherRight : Operand}
      {column other : ResolvedColumn} :
      Alike left otherLeft → Alike right otherRight →
      Alike (.computed op left right column) (.computed op otherLeft otherRight other)

namespace Operand.Alike

variable {operand other : Operand}

theorem same (operand : Operand) : operand.Alike operand := by
  induction operand with
  | value value => exact .value (.same value)
  | column column => exact .column column
  | computed op left right column leftIH rightIH => exact .computed leftIH rightIH

theorem trans {last : Operand} (first : operand.Alike other) (second : other.Alike last) :
    operand.Alike last := by
  induction first generalizing last with
  | value alike =>
      cases second with
      | value otherAlike => exact .value (alike.trans otherAlike)
  | column => exact second
  | swap _ _ leftIH rightIH =>
      cases second with
      | swap right left => exact .computed (leftIH left) (rightIH right)
      | computed right left => exact .swap (leftIH left) (rightIH right)
  | computed _ _ leftIH rightIH =>
      cases second with
      | swap left right => exact .swap (leftIH left) (rightIH right)
      | computed left right => exact .computed (leftIH left) (rightIH right)

theorem bears (alike : operand.Alike other) : other.column?.isSome = operand.column?.isSome := by
  cases alike <;> rfl

theorem eq_null (alike : operand.Alike other) (null : other = .value .null) :
    operand = .value .null := by
  subst null
  cases alike with
  | value alike =>
      cases alike
      rfl

end Operand.Alike

namespace Context

variable {context : Context} {expr other : Expr} {operand : Operand}

/-- Arithmetic is classified whenever its sides are, one of which has a column. -/
private theorem Classifies.exists_computed {op : ArithmeticOp} {left right : Expr}
    {leftOperand rightOperand : Operand} (leftClassified : context.Classifies left leftOperand)
    (rightClassified : context.Classifies right rightOperand)
    (bears : leftOperand.column?.isSome = true ∨ rightOperand.column?.isSome = true) :
    ∃ column, context.Classifies (.arithmetic op left right)
      (.computed op leftOperand rightOperand column) := by
  have named : (leftOperand.column?.or rightOperand.column?).isSome = true := by
    rw [Option.isSome_or, Bool.or_eq_true]
    exact bears
  obtain ⟨column, named⟩ := Option.isSome_iff_exists.mp named
  exact ⟨column, .computed leftClassified rightClassified named⟩

private theorem bears_of_named {left right : Operand} {column : ResolvedColumn}
    (named : left.column?.or right.column? = some column) :
    left.column?.isSome = true ∨ right.column?.isSome = true := by
  rw [← Bool.or_eq_true, ← Option.isSome_or, named]
  rfl

/-- Arithmetic on sides that are classified alike is classified alike. -/
private theorem Classifies.arithmetic_alike {op : ArithmeticOp}
    {left right otherLeft otherRight : Expr}
    (leftAlike : ∀ {side}, context.Classifies left side →
      ∃ otherSide, context.Classifies otherLeft otherSide ∧ side.Alike otherSide)
    (rightAlike : ∀ {side}, context.Classifies right side →
      ∃ otherSide, context.Classifies otherRight otherSide ∧ side.Alike otherSide)
    (classified : context.Classifies (.arithmetic op left right) operand) :
    ∃ otherOperand, context.Classifies (.arithmetic op otherLeft otherRight) otherOperand ∧
      operand.Alike otherOperand := by
  cases classified with
  | folded leftClassified rightClassified applied =>
      obtain ⟨_, otherLeft, leftAlike⟩ := leftAlike leftClassified
      obtain ⟨_, otherRight, rightAlike⟩ := rightAlike rightClassified
      cases leftAlike with
      | value leftAlike =>
          cases rightAlike with
          | value rightAlike =>
              obtain ⟨_, applied, alike⟩ := Value.arithmetic_alike leftAlike rightAlike applied
              exact ⟨_, .folded otherLeft otherRight applied, .value alike⟩
  | computed leftClassified rightClassified named =>
      obtain ⟨_, otherLeft, leftAlike⟩ := leftAlike leftClassified
      obtain ⟨_, otherRight, rightAlike⟩ := rightAlike rightClassified
      have bears := bears_of_named named
      rw [← leftAlike.bears, ← rightAlike.bears] at bears
      obtain ⟨column, computed⟩ := otherLeft.exists_computed otherRight bears
      exact ⟨_, computed, .computed leftAlike rightAlike⟩

/-- A sum or a product in the other order is classified alike. Only the column that it lends may be
another. -/
private theorem Classifies.commuted {op : ArithmeticOp} (commutes : op.Commutes)
    {left right : Expr} (classified : context.Classifies (.arithmetic op left right) operand) :
    ∃ otherOperand, context.Classifies (.arithmetic op right left) otherOperand ∧
      operand.Alike otherOperand := by
  cases classified with
  | folded leftClassified rightClassified applied =>
      obtain ⟨_, applied, alike⟩ := Value.arithmetic_comm commutes applied
      exact ⟨_, .folded rightClassified leftClassified applied, .value alike⟩
  | computed leftClassified rightClassified named =>
      obtain ⟨column, computed⟩ :=
        rightClassified.exists_computed leftClassified (bears_of_named named).symm
      exact ⟨_, computed, .swap (.same _) (.same _)⟩

/-- An operand with swapped sides is classified as an operand like the first. -/
theorem Classifies.swapped (swapped : expr.Swapped other)
    (classified : context.Classifies expr operand) :
    ∃ otherOperand, context.Classifies other otherOperand ∧ operand.Alike otherOperand := by
  induction swapped generalizing operand with
  | same => exact ⟨operand, classified, .same operand⟩
  | arithmetic _ _ leftIH rightIH => exact classified.arithmetic_alike leftIH rightIH
  | swap commutes _ _ leftIH rightIH =>
      obtain ⟨_, paired, alike⟩ := classified.arithmetic_alike leftIH rightIH
      obtain ⟨_, commuted, otherAlike⟩ := paired.commuted commutes
      exact ⟨_, commuted, alike.trans otherAlike⟩

/-- An operand lends its leftmost column. -/
theorem Classifies.lends (classified : context.Classifies expr operand) {column : ResolvedColumn}
    (lent : operand.column? = some column) :
    ∃ name, expr.properties.head? = some name ∧ context.column name = .ok column := by
  induction classified generalizing column with
  | literal | captured | field | folded => cases lent
  | property found =>
      cases lent
      exact ⟨_, rfl, found⟩
  | computed leftClassified _ named leftIH rightIH =>
      cases lent
      rw [Expr.properties, List.head?_append]
      rcases Option.or_eq_some_iff.mp named with named | ⟨bare, named⟩
      · obtain ⟨name, first, found⟩ := leftIH named
        exact ⟨name, by rw [first]; rfl, found⟩
      · obtain ⟨name, first, found⟩ := rightIH named
        rw [leftClassified.column?_eq_none_iff.mp bare]
        exact ⟨name, first, found⟩

/-!
## Terms of alike operands
-/

variable {value otherValue : Value} {partner : Option ResolvedColumn}

theorem exists_slot_iff {base : String} {dataType : DataType} :
    (∃ slot, context.slot base value dataType = .ok slot) ↔
      (context.useParameters = false → value.hasLiteral = true) := by
  simp only [slot_eq_ok_iff, exists_and_left, exists_eq', and_true]

theorem exists_plainSlot_iff :
    (∃ slot, context.partnerSlot value partner false = .ok slot) ↔
      (context.useParameters = false → value.hasLiteral = true) := by
  unfold partnerSlot
  split
  · exact exists_slot_iff
  · exact exists_slot_iff
  · exact exists_slot_iff

theorem partnerSlot_null (column : ResolvedColumn) :
    ∃ slot, context.partnerSlot .null (some column) true = .ok slot := by
  obtain ⟨name, declared⟩ := column
  cases declared <;> exact exists_slot_iff.mpr fun _ => rfl

/-- Beside columns of the same declared type alike values fit alike. -/
theorem partnerSlot_alike (alike : value.Alike otherValue) {column other : ResolvedColumn}
    (declared : column.dataType = other.dataType) {slot : Slot}
    (placed : context.partnerSlot value (some column) true = .ok slot) :
    ∃ slot, context.partnerSlot otherValue (some other) true = .ok slot := by
  obtain ⟨name, dataType⟩ := column
  obtain ⟨otherName, otherType⟩ := other
  cases declared
  cases dataType with
  | none =>
      have literal := exists_slot_iff.mp ⟨slot, placed⟩
      rw [alike.hasLiteral] at literal
      exact exists_slot_iff.mpr literal
  | some dataType =>
      obtain ⟨converted, coerced, made⟩ := Result.bind_eq_ok_iff.mp placed
      obtain ⟨otherConverted, otherCoerced, sameLiteral⟩ := Value.coerce_alike alike coerced
      have literal := exists_slot_iff.mp ⟨slot, made⟩
      rw [sameLiteral] at literal
      obtain ⟨otherSlot, otherMade⟩ := exists_slot_iff.mpr literal
      exact ⟨otherSlot, Result.bind_eq_ok_iff.mpr ⟨otherConverted, otherCoerced, otherMade⟩⟩

/-- Inside arithmetic values keep their own types, so alike operands are written alike. -/
theorem Writes.alike {term : Term} (written : context.Writes operand partner false term)
    {otherOperand : Operand} (alike : operand.Alike otherOperand)
    (otherPartner : Option ResolvedColumn) :
    ∃ otherTerm, context.Writes otherOperand otherPartner false otherTerm := by
  induction alike generalizing partner otherPartner term with
  | value alike =>
      cases written with
      | value placed =>
          have literal := exists_plainSlot_iff.mp ⟨_, placed⟩
          rw [alike.hasLiteral] at literal
          obtain ⟨slot, placed⟩ := exists_plainSlot_iff.mpr literal
          exact ⟨.slot slot, .value placed⟩
  | column => exact ⟨_, .column⟩
  | swap _ _ leftIH rightIH =>
      cases written with
      | computed leftWritten rightWritten =>
          obtain ⟨_, leftWritten⟩ := leftIH leftWritten _
          obtain ⟨_, rightWritten⟩ := rightIH rightWritten _
          exact ⟨_, .computed rightWritten leftWritten⟩
  | computed _ _ leftIH rightIH =>
      cases written with
      | computed leftWritten rightWritten =>
          obtain ⟨_, leftWritten⟩ := leftIH leftWritten _
          obtain ⟨_, rightWritten⟩ := rightIH rightWritten _
          exact ⟨_, .computed leftWritten rightWritten⟩

/-- What has a column is written in the same way beside every partner. -/
theorem Writes.plain {coerced : Bool} {term : Term}
    (written : context.Writes operand partner coerced term)
    (bears : operand.column?.isSome = true) (otherPartner : Option ResolvedColumn)
    (otherCoerced : Bool) : context.Writes operand otherPartner otherCoerced term := by
  cases written with
  | value => cases bears
  | column => exact .column
  | computed leftWritten rightWritten => exact .computed leftWritten rightWritten

/-!
## Comparisons
-/

section Comparisons

variable {op : Relation} {left right otherLeft otherRight : Expr}
  {leftOperand rightOperand otherOperand partnerOperand : Operand} {condition : Condition}

/-- Fitting beside the leftmost column is fitting beside the column that an operand lends. -/
theorem fitsBeside_iff (leftClassified : context.Classifies left leftOperand)
    (rightClassified : context.Classifies right rightOperand) :
    context.FitsBeside left right ↔
      ∀ value column, leftOperand = .value value → rightOperand.column? = some column →
        ∃ slot, context.partnerSlot value (some column) true = .ok slot := by
  constructor
  · intro fits value column folded lent
    subst folded
    obtain ⟨name, first, found⟩ := rightClassified.lends lent
    exact fits value name column leftClassified.complete first found
  · intro fits value name column folded first found
    obtain rfl := Except.ok.inj (leftClassified.complete.symm.trans folded)
    have bears : rightOperand.column? ≠ none := by
      rw [ne_eq, rightClassified.column?_eq_none_iff]
      intro columnFree
      rw [columnFree] at first
      cases first
    obtain ⟨lent, lends⟩ := Option.ne_none_iff_exists'.mp bears
    obtain ⟨leftmost, sameFirst, sameFound⟩ := rightClassified.lends lends
    obtain rfl := Option.some.inj (first.symm.trans sameFirst)
    obtain rfl := Except.ok.inj (found.symm.trans sameFound)
    exact fits value column rfl lends

/-- The values of an accepted comparison fit the leftmost column of the other side. -/
theorem Lowers.fits_compare (lowered : context.Lowers (.compare op left right) condition) :
    context.FitsBeside left right ∧ context.FitsBeside right left := by
  cases lowered with
  | decided leftClassified rightClassified =>
      rw [fitsBeside_iff leftClassified rightClassified,
        fitsBeside_iff rightClassified leftClassified]
      exact ⟨nofun, nofun⟩
  | nullLeft leftNull rightClassified =>
      rw [fitsBeside_iff leftNull rightClassified, fitsBeside_iff rightClassified leftNull]
      refine ⟨?_, nofun⟩
      intro value column null _
      cases null
      exact partnerSlot_null column
  | nullRight leftClassified rightNull =>
      rw [fitsBeside_iff leftClassified rightNull, fitsBeside_iff rightNull leftClassified]
      refine ⟨nofun, ?_⟩
      intro value column null _
      cases null
      exact partnerSlot_null column
  | compared leftClassified rightClassified _ _ _ leftWritten rightWritten =>
      rw [fitsBeside_iff leftClassified rightClassified,
        fitsBeside_iff rightClassified leftClassified]
      have written : ∀ {value : Value} {operand : Operand} {column : ResolvedColumn} {term : Term},
          context.Writes (.value value) operand.column? true term →
          operand.column? = some column →
          ∃ slot, context.partnerSlot value (some column) true = .ok slot := by
        intro value operand column term written lent
        rw [lent] at written
        cases written with
        | value placed => exact ⟨_, placed⟩
      constructor
      · intro value column folded lent
        subst folded
        exact written leftWritten lent
      · intro value column folded lent
        subst folded
        exact written rightWritten lent

theorem Lowers.operands (lowered : context.Lowers (.compare op left right) condition) :
    ∃ leftOperand rightOperand, context.Classifies left leftOperand ∧
      context.Classifies right rightOperand := by
  cases lowered with
  | decided leftClassified rightClassified => exact ⟨_, _, leftClassified, rightClassified⟩
  | nullLeft leftClassified rightClassified => exact ⟨_, _, leftClassified, rightClassified⟩
  | nullRight leftClassified rightClassified => exact ⟨_, _, leftClassified, rightClassified⟩
  | compared leftClassified rightClassified => exact ⟨_, _, leftClassified, rightClassified⟩

/-- One side of a comparison is written like an alike one, if it is no value or fits. -/
private theorem Writes.beside {operand : Operand} {term : Term}
    (written : context.Writes operand partner true term) (alike : operand.Alike otherOperand)
    (fits : ∀ value column, otherOperand = .value value → partnerOperand.column? = some column →
      ∃ slot, context.partnerSlot value (some column) true = .ok slot)
    (bears : (otherOperand.column?.or partnerOperand.column?).isSome = true) :
    ∃ otherTerm, context.Writes otherOperand partnerOperand.column? true otherTerm := by
  cases otherOperand with
  | value value =>
      obtain ⟨column, lent⟩ := Option.isSome_iff_exists.mp bears
      obtain ⟨slot, placed⟩ := fits value column rfl lent
      change partnerOperand.column? = some column at lent
      rw [← lent] at placed
      exact ⟨.slot slot, .value placed⟩
  | column | computed =>
      have plain := written.plain alike.bears.symm none false
      obtain ⟨otherTerm, otherWritten⟩ := plain.alike alike none
      exact ⟨otherTerm, otherWritten.plain rfl _ _⟩

theorem Lowers.swapped_compare (lowered : context.Lowers (.compare op left right) condition)
    (leftSwapped : left.Swapped otherLeft) (rightSwapped : right.Swapped otherRight)
    (leftFits : context.FitsBeside otherLeft otherRight)
    (rightFits : context.FitsBeside otherRight otherLeft) :
    ∃ other, context.Lowers (.compare op otherLeft otherRight) other := by
  cases lowered with
  | decided leftClassified rightClassified decided =>
      obtain ⟨_, otherLeft, leftAlike⟩ := leftClassified.swapped leftSwapped
      obtain ⟨_, otherRight, rightAlike⟩ := rightClassified.swapped rightSwapped
      cases leftAlike with
      | value leftAlike =>
          cases rightAlike with
          | value rightAlike =>
              obtain ⟨holds, decided⟩ := Value.compared_alike leftAlike rightAlike decided
              exact ⟨.truth holds, .decided otherLeft otherRight decided⟩
  | nullLeft leftNull rightClassified bears written =>
      obtain ⟨_, otherNull, nullAlike⟩ := leftNull.swapped leftSwapped
      obtain ⟨_, otherRight, alike⟩ := rightClassified.swapped rightSwapped
      obtain ⟨term, written⟩ := written.alike alike none
      cases nullAlike with
      | value nullAlike =>
          cases nullAlike
          exact ⟨_, .nullLeft otherNull otherRight (alike.bears.trans bears) written⟩
  | nullRight leftClassified rightNull bears written =>
      obtain ⟨_, otherLeft, alike⟩ := leftClassified.swapped leftSwapped
      obtain ⟨_, otherNull, nullAlike⟩ := rightNull.swapped rightSwapped
      obtain ⟨term, written⟩ := written.alike alike none
      cases nullAlike with
      | value nullAlike =>
          cases nullAlike
          exact ⟨_, .nullRight otherLeft otherNull (alike.bears.trans bears) written⟩
  | compared leftClassified rightClassified leftNotNull rightNotNull bears leftWritten
      rightWritten =>
      obtain ⟨_, otherLeft, leftAlike⟩ := leftClassified.swapped leftSwapped
      obtain ⟨_, otherRight, rightAlike⟩ := rightClassified.swapped rightSwapped
      rw [Option.isSome_or, ← leftAlike.bears, ← rightAlike.bears, ← Option.isSome_or] at bears
      have mirrored := bears
      rw [Option.isSome_or, Bool.or_comm, ← Option.isSome_or] at mirrored
      obtain ⟨leftTerm, leftWritten⟩ :=
        leftWritten.beside leftAlike ((fitsBeside_iff otherLeft otherRight).mp leftFits) bears
      obtain ⟨rightTerm, rightWritten⟩ :=
        rightWritten.beside rightAlike ((fitsBeside_iff otherRight otherLeft).mp rightFits) mirrored
      exact ⟨_, .compared otherLeft otherRight (fun null => leftNotNull (leftAlike.eq_null null))
        (fun null => rightNotNull (rightAlike.eq_null null)) bears leftWritten rightWritten⟩

end Comparisons

/-!
## Predicates
-/

theorem Lowers.fits : {expr : Expr} → {condition : Condition} → context.Lowers expr condition →
    expr.Fits context
  | .and _ _, _, lowered => by
      obtain ⟨_, _, leftLowered, rightLowered, _⟩ := lowers_and_iff.mp lowered
      exact ⟨leftLowered.fits, rightLowered.fits⟩
  | .or _ _, _, lowered => by
      obtain ⟨_, _, leftLowered, rightLowered, _⟩ := lowers_or_iff.mp lowered
      exact ⟨leftLowered.fits, rightLowered.fits⟩
  | .not _, _, lowered => by
      obtain ⟨_, operandLowered, _⟩ := lowers_not_iff.mp lowered
      exact operandLowered.fits
  | .compare _ _ _, _, lowered => lowered.fits_compare
  | .literal _, _, _ | .property _, _, _ | .captured _, _, _ | .field _ _, _, _
  | .arithmetic _ _ _, _, _ | .like _ _ _, _, _ | .isNull _ _, _, _ | .inList _ _ _, _, _ =>
      trivial

/-- A reordered predicate is lowered as soon as its values fit. -/
theorem Lowers.reordered (reordered : expr.Reordered other) {condition : Condition}
    (lowered : context.Lowers expr condition) (fits : other.Fits context) :
    ∃ otherCondition, context.Lowers other otherCondition := by
  induction reordered generalizing condition with
  | same => exact ⟨condition, lowered⟩
  | and _ _ leftIH rightIH =>
      obtain ⟨_, _, leftLowered, rightLowered, _⟩ := lowers_and_iff.mp lowered
      obtain ⟨_, otherLeft⟩ := leftIH leftLowered fits.1
      obtain ⟨_, otherRight⟩ := rightIH rightLowered fits.2
      exact ⟨_, .and otherLeft otherRight⟩
  | or _ _ leftIH rightIH =>
      obtain ⟨_, _, leftLowered, rightLowered, _⟩ := lowers_or_iff.mp lowered
      obtain ⟨_, otherLeft⟩ := leftIH leftLowered fits.1
      obtain ⟨_, otherRight⟩ := rightIH rightLowered fits.2
      exact ⟨_, .or otherLeft otherRight⟩
  | not _ ih =>
      obtain ⟨_, operandLowered, _⟩ := lowers_not_iff.mp lowered
      obtain ⟨_, other⟩ := ih operandLowered fits
      exact ⟨_, .not other⟩
  | compare leftSwapped rightSwapped =>
      exact lowered.swapped_compare leftSwapped rightSwapped fits.1 fits.2

/-- Beside columns of one declared type the values that fit the leftmost column fit all others. -/
theorem FitsBeside.swapped {side partner otherSide otherPartner : Expr}
    {sideOperand partnerOperand : Operand} (fits : context.FitsBeside side partner)
    (sideClassified : context.Classifies side sideOperand)
    (partnerClassified : context.Classifies partner partnerOperand)
    (sideSwapped : side.Swapped otherSide) (partnerSwapped : partner.Swapped otherPartner)
    {declared : Option DataType}
    (alone : ∀ name ∈ partner.properties, ∀ column, context.column name = .ok column →
      column.dataType = declared) :
    context.FitsBeside otherSide otherPartner := by
  obtain ⟨otherOperand, otherClassified, alike⟩ := sideClassified.swapped sideSwapped
  intro value name column folded first found
  obtain rfl := Except.ok.inj (otherClassified.complete.symm.trans folded)
  have named := partnerSwapped.mem_properties.mp (List.mem_of_head? first)
  cases alike with
  | value alike =>
      have bears : partnerOperand.column? ≠ none := by
        rw [ne_eq, partnerClassified.column?_eq_none_iff]
        intro columnFree
        rw [columnFree] at named
        cases named
      obtain ⟨lent, lends⟩ := Option.ne_none_iff_exists'.mp bears
      obtain ⟨leftmost, leftmostFirst, leftmostFound⟩ := partnerClassified.lends lends
      obtain ⟨slot, placed⟩ :=
        (fitsBeside_iff sideClassified partnerClassified).mp fits _ lent rfl lends
      have sameType : lent.dataType = column.dataType :=
        (alone leftmost (List.mem_of_head? leftmostFirst) lent leftmostFound).trans
          (alone name named column found).symm
      exact partnerSlot_alike alike sameType placed

/-- Where the columns of a predicate have one declared type, its values fit in every order. -/
theorem Lowers.fits_reordered (reordered : expr.Reordered other) {condition : Condition}
    (lowered : context.Lowers expr condition) {declared : Option DataType}
    (alone : ∀ name ∈ expr.properties, ∀ column, context.column name = .ok column →
      column.dataType = declared) :
    other.Fits context := by
  induction reordered generalizing condition with
  | same => exact lowered.fits
  | and _ _ leftIH rightIH =>
      obtain ⟨_, _, leftLowered, rightLowered, _⟩ := lowers_and_iff.mp lowered
      rw [Expr.properties, List.forall_mem_append] at alone
      exact ⟨leftIH leftLowered alone.1, rightIH rightLowered alone.2⟩
  | or _ _ leftIH rightIH =>
      obtain ⟨_, _, leftLowered, rightLowered, _⟩ := lowers_or_iff.mp lowered
      rw [Expr.properties, List.forall_mem_append] at alone
      exact ⟨leftIH leftLowered alone.1, rightIH rightLowered alone.2⟩
  | not _ ih =>
      obtain ⟨_, operandLowered, _⟩ := lowers_not_iff.mp lowered
      exact ih operandLowered alone
  | compare leftSwapped rightSwapped =>
      rw [Expr.properties, List.forall_mem_append] at alone
      obtain ⟨leftFits, rightFits⟩ := lowered.fits_compare
      obtain ⟨_, _, leftClassified, rightClassified⟩ := lowered.operands
      exact ⟨leftFits.swapped leftClassified rightClassified leftSwapped rightSwapped alone.2,
        rightFits.swapped rightClassified leftClassified rightSwapped leftSwapped alone.1⟩

end Context

namespace Clause

variable {settings : Settings} {scope : Option Scope} {entity : Option Entity} {expr : Expr}
  {before : Parameters}

theorem render_predicate_ok_iff :
    (∃ rendered, (predicate expr).render settings scope entity before = .ok rendered) ↔
      ∃ condition, (settings.context scope entity).Lowers expr condition := by
  constructor
  · intro accepted
    obtain ⟨⟨text, after⟩, rendered⟩ := accepted
    obtain ⟨condition, lowered, _⟩ := render_predicate_eq_ok_iff.mp rendered
    exact ⟨condition, lowered⟩
  · intro given
    obtain ⟨condition, lowered⟩ := given
    exact ⟨_, render_predicate_eq_ok_iff.mpr ⟨condition, lowered, rfl, rfl⟩⟩

/-- The order of sums and products in the operands of comparisons decides whether a predicate is
accepted only through the declared types of leftmost columns: an accepted predicate stays accepted
exactly if its values fit the columns that are leftmost after the reordering. So the order decides
nothing where the columns of the predicate have one declared type, or none without an entity. -/
theorem render_reordered (settings : Settings) (scope : Option Scope) (entity : Option Entity)
    (before : Parameters) {expr other : Expr} (reordered : expr.Reordered other) :
    let context := settings.context scope entity
    let Accepted := fun expr => ∃ rendered,
      (predicate expr).render settings scope entity before = .ok rendered
    (Accepted expr → (Accepted other ↔ other.Fits context)) ∧
      ∀ declared : Option DataType,
        (∀ name ∈ expr.properties, ∀ column, context.column name = .ok column →
          column.dataType = declared) →
        (Accepted expr ↔ Accepted other) := by
  intro context Accepted
  have decided : ∀ {expr other : Expr}, expr.Reordered other → Accepted expr →
      (Accepted other ↔ other.Fits context) := by
    intro expr other reordered accepted
    obtain ⟨condition, lowered⟩ := render_predicate_ok_iff.mp accepted
    constructor
    · intro otherAccepted
      obtain ⟨_, otherLowered⟩ := render_predicate_ok_iff.mp otherAccepted
      exact otherLowered.fits
    · intro fits
      exact render_predicate_ok_iff.mpr (lowered.reordered reordered fits)
  have kept : ∀ {expr other : Expr} {declared : Option DataType}, expr.Reordered other →
      (∀ name ∈ expr.properties, ∀ column, context.column name = .ok column →
        column.dataType = declared) → Accepted expr → Accepted other := by
    intro expr other declared reordered alone accepted
    obtain ⟨condition, lowered⟩ := render_predicate_ok_iff.mp accepted
    exact (decided reordered accepted).mpr (lowered.fits_reordered reordered alone)
  refine ⟨decided reordered, fun declared alone => ⟨kept reordered alone, ?_⟩⟩
  exact kept reordered.symm fun name member =>
    alone name (reordered.mem_properties.mp member)

/-- Counts that are kept in columns of different widths. -/
def sampleCounts : Entity where
  name := "Count"
  table := "counts"
  columns :=
    [{ property := "small", column := "Small", dataType := .int16 },
      { property := "big", column := "Big", dataType := .int64 }]

def sampleExcess (left right : String) (limit : Int32) : Expr :=
  .compare .gt (.arithmetic .add (.property left) (.property right)) (.literal (.int32 limit))

theorem sampleExcess_reordered (left right : String) (limit : Int32) :
    (sampleExcess left right limit).Reordered (sampleExcess right left limit) :=
  .compare (.swap (.inl rfl) (.same _) (.same _)) (.same _)

/-- A number that only the wider column holds: the sum is accepted with this column in front and
refused with the other one. -/
theorem render_ordered_sampleCounts :
    let render := fun expr => (predicate expr).render .standard none (some sampleCounts) .empty
    (sampleExcess "big" "small" 100000).Reordered (sampleExcess "small" "big" 100000) ∧
      (∃ rendered, render (sampleExcess "big" "small" 100000) = .ok rendered) ∧
      render (sampleExcess "small" "big" 100000) = .error (.wrongType "Small" .int16 .int32) :=
  ⟨sampleExcess_reordered .., ⟨_, rfl⟩, rfl⟩

/-- A number that both columns hold fits in both orders; the larger one does not fit the narrower
column. Without an entity there is nothing to fit. -/
theorem render_reordered_sampleCounts :
    let render := fun entity expr => (predicate expr).render .standard none entity .empty
    let context := Settings.standard.context none (some sampleCounts)
    (∃ rendered, render (some sampleCounts) (sampleExcess "big" "small" 7) = .ok rendered) ∧
      (sampleExcess "small" "big" 7).Fits context ∧
      ¬(sampleExcess "small" "big" 100000).Fits context ∧
      (∃ rendered, render none (sampleExcess "small" "big" 100000) = .ok rendered) := by
  intro render context
  obtain ⟨small, _⟩ := render_reordered .standard none (some sampleCounts) .empty
    (sampleExcess_reordered "big" "small" 7)
  obtain ⟨large, _⟩ := render_reordered .standard none (some sampleCounts) .empty
    (sampleExcess_reordered "big" "small" 100000)
  obtain ⟨_, untyped⟩ := render_reordered .standard none none .empty
    (sampleExcess_reordered "big" "small" 100000)
  refine ⟨⟨_, rfl⟩, (small ⟨_, rfl⟩).mp ⟨_, rfl⟩, fun fits => ?_, ?_⟩
  · obtain ⟨_, rendered⟩ := (large ⟨_, rfl⟩).mpr fits
    cases rendered
  · refine (untyped none ?_).mp ⟨_, rfl⟩
    intro name _ column found
    cases found
    rfl

end Clause

end QueryText
