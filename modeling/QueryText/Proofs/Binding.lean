import QueryText.Proofs.Evaluation
import QueryText.Proofs.Instantiation

/-!
# Bound values of a predicate

Which values a predicate binds, read off the expression alone: the largest parts of its operands
that name no property, each under a column that stands beside it. The parameters that rendering
appends without an entity are these values, from left to right, and no others.
-/

set_option autoImplicit false

namespace QueryText

/-!
## Constants of an operand
-/

/-- A value under the name of a column, with its own type. -/
def Slot.named (column : String) (value : Value) : Slot :=
  ⟨column, value, value.dataType⟩

namespace Expr

/-- The largest subtrees of an operand that name no property, each with the column that it is named
after: `beside` for the whole operand, and inside arithmetic the leftmost column of the node that
directly contains the subtree. -/
def constants (beside : String) : Expr → List (String × Expr)
  | .property _ => []
  | .arithmetic op left right =>
    match left.properties ++ right.properties with
    | [] => [(beside, .arithmetic op left right)]
    | column :: _ => left.constants column ++ right.constants column
  | other => [(beside, other)]

/-- Whether an expression names no property and computes a null. -/
def isNullConstant (scope : Scope) (expr : Expr) : Bool :=
  (expr.constant? scope).any Value.isNull

def slotNamed? (scope : Scope) (column : String) (constant : Expr) : Option Slot :=
  (constant.constant? scope).map (Slot.named column)

/-- The slots of the constants of operands that stand beside a column. -/
def constantSlots? (scope : Scope) (column : String) (operands : List Expr) :
    Option (List Slot) :=
  (operands.flatMap (constants column)).mapM fun (name, constant) => constant.slotNamed? scope name

/-!
## Slots of a predicate
-/

/-- The slots of a predicate, if all that they hold can be computed. A test without a property is
decided and takes no slot, and neither does the null of a comparison. A side without a property
stands beside the other side, whose leftmost column is then the leftmost of the comparison. -/
def boundSlots? (scope : Scope) : Expr → Option (List Slot)
  | .and left right | .or left right => do
    let leftSlots ← left.boundSlots? scope
    let rightSlots ← right.boundSlots? scope
    return leftSlots ++ rightSlots
  | .not operand => operand.boundSlots? scope
  | .compare _ left right =>
    match left.properties ++ right.properties with
    | [] => some []
    | column :: _ =>
      constantSlots? scope column ([left, right].filter fun side => !side.isNullConstant scope)
  | .isNull _ operand =>
    match operand.properties with
    | [] => some []
    | column :: _ => constantSlots? scope column [operand]
  | .like kind operand pattern => do
    let column ← operand.properties.head?
    let text ← (← pattern.constant? scope).text?
    return [.named column (.text (kind.apply text))]
  | .inList _ operand items => do
    let column ← operand.properties.head?
    items.mapM (slotNamed? scope column)
  | .property name => some [.named name (.bool true)]
  | .literal _ | .captured _ | .field _ _ | .arithmetic _ _ _ => some []

theorem boundSlots?_compare {scope : Scope} {op : Relation} {left right : Expr} {column : String}
    {others : List String} (leftmost : left.properties ++ right.properties = column :: others) :
    (compare op left right).boundSlots? scope =
      constantSlots? scope column
        ([left, right].filter fun side => !side.isNullConstant scope) := by
  simp only [boundSlots?, leftmost]

/-!
## Constants
-/

theorem constants_of_columnFree {beside : String} : {expr : Expr} → expr.properties = [] →
    expr.constants beside = [(beside, expr)]
  | .property _, columnFree => nomatch columnFree
  | .arithmetic op left right, columnFree => by
      have sides : left.properties ++ right.properties = [] := columnFree
      simp only [constants, sides]
  | .literal _, _ | .captured _, _ | .field .., _ | .compare .., _ | .and .., _ | .or .., _
  | .not _, _ | .like .., _ | .isNull .., _ | .inList .., _ => rfl

theorem constantSlots?_columnFree {scope : Scope} {column : String} {expr : Expr} {value : Value}
    (columnFree : expr.properties = []) (constant : expr.constant? scope = some value) :
    constantSlots? scope column [expr] = some [.named column value] := by
  simp [constantSlots?, constants_of_columnFree columnFree, slotNamed?, constant]

theorem constantSlots?_arithmetic {scope : Scope} {beside column : String} {op : ArithmeticOp}
    {left right : Expr} {others : List String}
    (leftmost : left.properties ++ right.properties = column :: others) :
    constantSlots? scope beside [.arithmetic op left right] =
      constantSlots? scope column [left, right] := by
  simp [constantSlots?, constants, leftmost]

theorem constantSlots?_pair {scope : Scope} {column : String} {left right : Expr}
    {leftSlots rightSlots : List Slot}
    (leftOk : constantSlots? scope column [left] = some leftSlots)
    (rightOk : constantSlots? scope column [right] = some rightSlots) :
    constantSlots? scope column [left, right] = some (leftSlots ++ rightSlots) := by
  simp only [constantSlots?, List.flatMap_cons, List.flatMap_nil, List.append_nil] at *
  simp [List.mapM_append, leftOk, rightOk]

end Expr

namespace Context

variable {context : Context} {expr : Expr} {operand : Operand}

/-!
## Names
-/

/-- Without an entity an operand lends its leftmost property as a name. -/
theorem Classifies.column?_eq (unknown : context.entity = none)
    (classified : context.Classifies expr operand) :
    operand.column? = expr.properties.head?.map fun name => ⟨name, none⟩ := by
  induction classified with
  | literal | captured => rfl
  | property found =>
      rw [column_untyped unknown found]
      rfl
  | field found =>
      rw [captureValue_properties found]
      rfl
  | folded leftClassified rightClassified =>
      rw [Expr.properties, leftClassified.column?_eq_none_iff.mp rfl,
        rightClassified.column?_eq_none_iff.mp rfl]
      rfl
  | computed _ _ named leftIH rightIH =>
      rw [Operand.column?, ← named, leftIH, rightIH, Expr.properties, List.head?_append]
      cases Expr.properties _ <;> rfl

theorem Classifies.properties_ne_nil (classified : context.Classifies expr operand)
    (bears : operand.column?.isSome = true) : expr.properties ≠ [] := by
  intro columnFree
  rw [classified.column?_eq_none_iff.mpr columnFree] at bears
  cases bears

theorem Classifies.leftmost (classified : context.Classifies expr operand)
    (bears : operand.column?.isSome = true) : ∃ name others, expr.properties = name :: others :=
  List.exists_cons_of_ne_nil (classified.properties_ne_nil bears)

theorem partnerSlot_named {column : String} {value : Value} {coerced : Bool} {slot : Slot}
    (placed : context.partnerSlot value (some ⟨column, none⟩) coerced = .ok slot) :
    slot = .named column value :=
  (slot_eq_ok_iff.mp placed).2.symm

theorem Classifies.isNullConstant_iff (classified : context.Classifies expr operand) :
    expr.isNullConstant context.bindings = true ↔ operand = .value .null := by
  rw [Expr.isNullConstant, Option.any_eq_true]
  constructor
  · intro given
    obtain ⟨value, constant, null⟩ := given
    have same := (classifies_value_iff.mpr constant).complete.symm.trans classified.complete
    cases value with
    | null => exact (Except.ok.inj same).symm
    | _ => cases null
  · rintro rfl
    exact ⟨.null, classifies_value_iff.mp classified, rfl⟩

/-!
## Slots
-/

/-- A value is written as the only constant of its expression. -/
private theorem value_slots {value : Value}
    (classified : context.Classifies expr (.value value)) {partner : Option ResolvedColumn}
    {coerced : Bool} {term : Term}
    (written : context.Writes (.value value) partner coerced term) {beside : String}
    (partnered : expr.properties = [] → partner = some ⟨beside, none⟩) :
    Expr.constantSlots? context.bindings beside [expr] = some term.fragment.slots := by
  have columnFree := classified.column?_eq_none_iff.mp rfl
  have constant := classifies_value_iff.mp classified
  obtain rfl := partnered columnFree
  cases written with
  | value placed =>
      rw [Expr.constantSlots?_columnFree columnFree constant, partnerSlot_named placed]
      rfl

/-- Writing an operand beside a column makes the slots of its constants. An operand that names a
property itself takes no name from its partner. -/
theorem Writes.slots (unknown : context.entity = none)
    (classified : context.Classifies expr operand) {partner : Option ResolvedColumn}
    {coerced : Bool} {term : Term} (written : context.Writes operand partner coerced term)
    {beside : String} (partnered : expr.properties = [] → partner = some ⟨beside, none⟩) :
    Expr.constantSlots? context.bindings beside [expr] = some term.fragment.slots := by
  induction classified generalizing partner coerced term beside with
  | literal => exact value_slots .literal written partnered
  | captured found => exact value_slots (.captured found) written partnered
  | field found => exact value_slots (.field found) written partnered
  | folded left right applied =>
      exact value_slots (.folded left right applied) written partnered
  | property =>
      cases written
      rfl
  | @computed op left right leftOperand rightOperand column leftClassified rightClassified named
      leftIH rightIH =>
      have computed : context.Classifies (.arithmetic op left right)
          (.computed op leftOperand rightOperand column) :=
        .computed leftClassified rightClassified named
      have lent := computed.column?_eq unknown
      rw [Operand.column?, Expr.properties] at lent
      cases leftmost : left.properties ++ right.properties with
      | nil => simp [leftmost] at lent
      | cons name others =>
          obtain rfl : column = ⟨name, none⟩ := by simpa [leftmost] using lent
          cases written with
          | computed leftWritten rightWritten =>
              rw [Expr.constantSlots?_arithmetic leftmost, Term.fragment,
                Fragment.slots_parenthesized, Fragment.slots_append, Fragment.slots_fixed]
              exact Expr.constantSlots?_pair (leftIH leftWritten fun _ => rfl)
                (rightIH rightWritten fun _ => rfl)

private theorem itemSlots_named {column : String} {items : List Expr} {slots : List Slot}
    (placed : List.Forall₂ (context.ItemSlot ⟨column, none⟩) items slots) :
    items.mapM (Expr.slotNamed? context.bindings column) = some slots := by
  induction placed with
  | nil => rfl
  | cons first _ ih =>
      obtain ⟨value, classified, placed⟩ := first
      rw [List.mapM_cons, ih, Expr.slotNamed?, classifies_value_iff.mp classified,
        partnerSlot_named placed]
      rfl

/-- The null test of what bears a column makes the slots of the constants inside it, whatever stands
beside it. -/
private theorem bearing_slots (unknown : context.entity = none)
    (classified : context.Classifies expr operand) (bears : operand.column?.isSome = true)
    {term : Term} (written : context.Writes operand none false term) (beside : String) :
    Expr.constantSlots? context.bindings beside [expr] = some term.fragment.slots := by
  obtain ⟨name, others, properties⟩ := classified.leftmost bears
  exact written.slots unknown classified fun columnFree => nomatch columnFree ▸ properties

private theorem not_null_of_bears (classified : context.Classifies expr operand)
    (bears : operand.column?.isSome = true) : ¬expr.isNullConstant context.bindings = true := by
  rw [classified.isNullConstant_iff]
  rintro rfl
  cases bears

variable {op : Relation} {left right : Expr} {leftOperand rightOperand : Operand}

private theorem nullLeft_slots (unknown : context.entity = none)
    (leftClassified : context.Classifies left (.value .null))
    (rightClassified : context.Classifies right rightOperand)
    (bears : rightOperand.column?.isSome = true) {term : Term}
    (written : context.Writes rightOperand none false term) :
    (Expr.compare op left right).boundSlots? context.bindings = some term.fragment.slots := by
  obtain ⟨name, others, properties⟩ := rightClassified.leftmost bears
  have leftmost : left.properties ++ right.properties = name :: others := by
    rw [leftClassified.column?_eq_none_iff.mp rfl, properties, List.nil_append]
  rw [Expr.boundSlots?_compare leftmost]
  simp only [leftClassified.isNullConstant_iff.mpr rfl, not_null_of_bears rightClassified bears,
    List.filter, Bool.not_true, Bool.not_false]
  exact bearing_slots unknown rightClassified bears written name

private theorem nullRight_slots (unknown : context.entity = none)
    (leftClassified : context.Classifies left leftOperand)
    (rightClassified : context.Classifies right (.value .null))
    (bears : leftOperand.column?.isSome = true) {term : Term}
    (written : context.Writes leftOperand none false term) :
    (Expr.compare op left right).boundSlots? context.bindings = some term.fragment.slots := by
  obtain ⟨name, others, properties⟩ := leftClassified.leftmost bears
  have leftmost : left.properties ++ right.properties = name :: others := by
    rw [rightClassified.column?_eq_none_iff.mp rfl, properties, List.append_nil]
  rw [Expr.boundSlots?_compare leftmost]
  simp only [not_null_of_bears leftClassified bears, rightClassified.isNullConstant_iff.mpr rfl,
    List.filter, Bool.not_true, Bool.not_false]
  exact bearing_slots unknown leftClassified bears written name

/-- A side without a property takes its name from the other side, whose leftmost property is then
that of the comparison. -/
private theorem compared_slots (unknown : context.entity = none)
    (leftClassified : context.Classifies left leftOperand)
    (rightClassified : context.Classifies right rightOperand)
    (leftNotNull : leftOperand ≠ .value .null) (rightNotNull : rightOperand ≠ .value .null)
    (bears : (leftOperand.column?.or rightOperand.column?).isSome = true)
    {leftTerm rightTerm : Term}
    (leftWritten : context.Writes leftOperand rightOperand.column? true leftTerm)
    (rightWritten : context.Writes rightOperand leftOperand.column? true rightTerm) :
    (Expr.compare op left right).boundSlots? context.bindings =
      some (leftTerm.fragment.slots ++ rightTerm.fragment.slots) := by
  have leftLent := leftClassified.column?_eq unknown
  have rightLent := rightClassified.column?_eq unknown
  cases leftmost : left.properties ++ right.properties with
  | nil =>
      obtain ⟨leftFree, rightFree⟩ := List.append_eq_nil_iff.mp leftmost
      rw [leftLent, rightLent, leftFree, rightFree] at bears
      cases bears
  | cons name others =>
      rw [Expr.boundSlots?_compare leftmost]
      simp only [leftClassified.isNullConstant_iff.not.mpr leftNotNull,
        rightClassified.isNullConstant_iff.not.mpr rightNotNull, List.filter, Bool.not_false]
      refine Expr.constantSlots?_pair (leftWritten.slots unknown leftClassified ?_)
        (rightWritten.slots unknown rightClassified ?_)
      · intro leftFree
        rw [leftFree, List.nil_append] at leftmost
        rw [rightLent, leftmost]
        rfl
      · intro rightFree
        rw [rightFree, List.append_nil] at leftmost
        rw [leftLent, leftmost]
        rfl

/-- The slots of a condition are those of the predicate that it comes from. -/
theorem Lowers.slots (unknown : context.entity = none) {condition : Condition}
    (lowered : context.Lowers expr condition) :
    expr.boundSlots? context.bindings = some condition.fragment.slots := by
  induction lowered with
  | and _ _ leftIH rightIH => simp [Expr.boundSlots?, leftIH, rightIH, Condition.fragment]
  | or _ _ leftIH rightIH => simp [Expr.boundSlots?, leftIH, rightIH, Condition.fragment]
  | not _ ih => simp [Expr.boundSlots?, ih, Condition.fragment]
  | truth | captured | field => rfl
  | property found _ placed =>
      obtain rfl := column_untyped unknown found
      rw [partnerSlot_named placed]
      rfl
  | decided left right =>
      rw [Expr.boundSlots?, left.column?_eq_none_iff.mp rfl, right.column?_eq_none_iff.mp rfl]
      rfl
  | nullLeft left right bears written =>
      rw [nullLeft_slots unknown left right bears written]
      simp [Condition.fragment]
  | nullRight left right bears written =>
      rw [nullRight_slots unknown left right bears written]
      simp [Condition.fragment]
  | compared left right leftNotNull rightNotNull bears leftWritten rightWritten =>
      rw [compared_slots unknown left right leftNotNull rightNotNull bears leftWritten rightWritten]
      simp [Condition.fragment]
  | like operand _ pattern placed =>
      cases operand with
      | property found =>
          obtain rfl := column_untyped unknown found
          rw [Expr.boundSlots?, classifies_value_iff.mp pattern, partnerSlot_named placed]
          rfl
  | valueTest operand =>
      rw [Expr.boundSlots?, operand.column?_eq_none_iff.mp rfl]
      rfl
  | nullTest operand bears written =>
      obtain ⟨name, others, properties⟩ := operand.leftmost bears
      simp only [Expr.boundSlots?, properties, bearing_slots unknown operand bears written name]
      simp [Condition.fragment]
  | emptyList operand =>
      cases operand with
      | property => rfl
  | list operand _ placed =>
      cases operand with
      | property found =>
          obtain rfl := column_untyped unknown found
          simp only [Condition.fragment, Fragment.slots_name, Fragment.slots_fixed,
            Fragment.slots_parenthesized, Fragment.slots_joined_slots]
          exact itemSlots_named placed

end Context

namespace Clause

/-- Without an entity, the parameters that rendering a predicate appends are the values that the
predicate binds, in order and numbered from the first free position. -/
theorem render_predicate_parameters {settings : Settings} (binds : settings.useParameters = true)
    {scope : Option Scope} {expr : Expr} {before after : Parameters} {text : String}
    (rendered : (predicate expr).render settings scope none before = .ok (text, after)) :
    ∃ slots, expr.boundSlots? (scope.getD .empty) = some slots ∧
      after.toList = before.toList ++ Slot.parametersFrom before.size slots := by
  obtain ⟨condition, lowered, _, rfl⟩ := render_predicate_eq_ok_iff.mp rendered
  refine ⟨condition.fragment.slots, lowered.slots rfl, ?_⟩
  rw [Fragment.bind_toList, if_pos binds]

/-- A predicate with constants at every depth, beside and without columns. -/
def sampleConstants : Expr :=
  .and
    (.and
      (.compare .gt
        (.arithmetic .add (.property "Age")
          (.arithmetic .multiply (.literal (.int32 3)) (.property "Rank")))
        (.arithmetic .multiply (.captured "margin") (.literal (.int32 2))))
      (.or
        (.compare .ne (.literal .null) (.arithmetic .add (.captured "margin") (.property "Size")))
        (.isNull false (.captured "margin"))))
    (.and
      (.or (.like .contains (.property "Name") (.literal (.text "x"))) (.property "Active"))
      (.or (.inList false (.property "Id") [.captured "margin", .literal .null])
        (.inList true (.property "Id") [])))

def sampleMargin : Scope :=
  Scope.empty.bind "margin" (.int32 5)

theorem render_predicate_parameters_sampleConstants :
    Settings.standard.useParameters = true ∧
      sampleConstants.boundSlots? sampleMargin =
        some [.named "Rank" (.int32 3), .named "Age" (.int32 10), .named "Size" (.int32 5),
          .named "Name" (.text "%x%"), .named "Active" (.bool true), .named "Id" (.int32 5),
          .named "Id" .null] ∧
      ∃ text after,
        (predicate sampleConstants).render .standard (some sampleMargin) none
          (Parameters.empty.bind "Id" (.int32 0) .int32) = .ok (text, after) ∧
        after.toList =
          [⟨"Id_0", .int32 0, .int32⟩, ⟨"Rank_1", .int32 3, .int32⟩, ⟨"Age_2", .int32 10, .int32⟩,
            ⟨"Size_3", .int32 5, .int32⟩, ⟨"Name_4", .text "%x%", .string⟩,
            ⟨"Active_5", .bool true, .boolean⟩, ⟨"Id_6", .int32 5, .int32⟩,
            ⟨"Id_7", .null, Value.null.dataType⟩] := by
  have bound : sampleConstants.boundSlots? sampleMargin =
      some [.named "Rank" (.int32 3), .named "Age" (.int32 10), .named "Size" (.int32 5),
        .named "Name" (.text "%x%"), .named "Active" (.bool true), .named "Id" (.int32 5),
        .named "Id" .null] := rfl
  obtain ⟨text, after, rendered⟩ : ∃ text after,
      (predicate sampleConstants).render .standard (some sampleMargin) none
        (Parameters.empty.bind "Id" (.int32 0) .int32) = .ok (text, after) := ⟨_, _, rfl⟩
  refine ⟨rfl, bound, text, after, rendered, ?_⟩
  obtain ⟨slots, slotsOk, appended⟩ := render_predicate_parameters rfl rendered
  obtain rfl := Option.some.inj (slotsOk.symm.trans bound)
  rw [appended]
  rfl

end Clause

end QueryText
