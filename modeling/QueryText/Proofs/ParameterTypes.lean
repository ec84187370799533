import QueryText.Proofs.Binding
import QueryText.Proofs.Coercion
import QueryText.Proofs.Resolution
import QueryText.Proofs.Retyping

/-!
# Types of parameters

A parameter carries its value and its declared type apart, and they agree: the type is that of the
value, or it admits the value anyway. With an entity, a value that meets a column directly is bound
with the type of that column. Inside arithmetic a value meets no column directly, and keeps its own.
-/

set_option autoImplicit false

namespace QueryText

/-!
## Values of declared types
-/

namespace Value

variable {value converted : Value} {target : DataType} {name : String}

/-- A coerced value fits the type to which it is coerced. -/
theorem coerce_ok_fits (coerced : value.coerce target name = .ok converted) :
    converted.Fits target := by
  rcases coerce_eq_ok_iff.mp coerced with ⟨fits, rfl⟩ | ⟨_, made⟩
  · exact fits
  · exact .inr (.inr (converted?_dataType made))

end Value

namespace Context

variable {context : Context} {value : Value} {partner : Option ResolvedColumn} {coerced : Bool}
  {slot : Slot}

/-- Whatever a value meets, its slot holds it coerced to the type of the slot. -/
theorem partnerSlot_coerced (placed : context.partnerSlot value partner coerced = .ok slot)
    (name : String) : value.coerce slot.dataType name = .ok slot.value := by
  match partner with
  | none | some ⟨_, none⟩ =>
      rw [slot_eq placed]
      exact value.coerce_self name
  | some ⟨column, some dataType⟩ =>
      cases coerced with
      | false =>
          rw [slot_eq placed]
          exact value.coerce_self name
      | true =>
          obtain ⟨converted, result, made⟩ := Result.bind_eq_ok_iff.mp placed
          rw [slot_eq made]
          exact Value.coerce_name result name

theorem Places.fits (placed : context.Places slot) : slot.value.Fits slot.dataType := by
  obtain ⟨value, partner, coerced, placed⟩ := placed
  exact Value.coerce_ok_fits (partnerSlot_coerced placed "")

theorem partnerSlot_declared {column : String} {dataType : DataType}
    (placed : context.partnerSlot value (some ⟨column, some dataType⟩) true = .ok slot) :
    slot.dataType = dataType := by
  obtain ⟨converted, _, made⟩ := Result.bind_eq_ok_iff.mp placed
  exact congrArg Slot.dataType (slot_eq made)

end Context

/-!
## Meetings
-/

/-- A value that a clause binds, with the property whose column it meets directly, if it does. -/
structure Meeting where
  value : Value
  property : Option String

/-- The value of a meeting is bound as another value with a declared type, to which it is coerced.
If it meets a column directly, the type is the one that the column is declared with. -/
structure Meeting.BoundAs (entity : Entity) (meeting : Meeting) (value : Value)
    (dataType : DataType) : Prop where
  coerced : ∀ name, meeting.value.coerce dataType name = .ok value
  declared : ∀ property, meeting.property = some property →
    ∃ column, entity.resolve property = .ok column ∧ dataType = column.dataType

abbrev Meeting.BoundBy (entity : Entity) (meeting : Meeting) (parameter : Parameter) : Prop :=
  meeting.BoundAs entity parameter.value parameter.dataType

namespace Expr

/-- The property that an expression is, if it is one alone. -/
def property? : Expr → Option String
  | .property name => some name
  | _ => none

/-- What an operand binds beside an expression, if all of it can be computed. An operand that names
no property is a single value, which meets the expression. -/
def operandMeetings? (scope : Scope) (beside : Option String) : Expr → Option (List Meeting)
  | .property _ => some []
  | .arithmetic op left right =>
    if left.properties ++ right.properties = [] then
      ((arithmetic op left right).constant? scope).map fun value => [⟨value, beside⟩]
    else do
      let leftMeetings ← left.operandMeetings? scope none
      let rightMeetings ← right.operandMeetings? scope none
      return leftMeetings ++ rightMeetings
  | other => (other.constant? scope).map fun value => [⟨value, beside⟩]

/-- What a side of a comparison binds beside the other side. The null of a comparison is not
bound. -/
def sideMeetings? (scope : Scope) (side other : Expr) : Option (List Meeting) :=
  if side.isNullConstant scope then some [] else side.operandMeetings? scope other.property?

/-- What a predicate binds, from left to right, if all of it can be computed. A test that names no
property is decided and binds nothing. -/
def meetings? (scope : Scope) : Expr → Option (List Meeting)
  | .and left right | .or left right => do
    let leftMeetings ← left.meetings? scope
    let rightMeetings ← right.meetings? scope
    return leftMeetings ++ rightMeetings
  | .not operand => operand.meetings? scope
  | .compare _ left right =>
    if left.properties ++ right.properties = [] then some []
    else do
      let leftMeetings ← left.sideMeetings? scope right
      let rightMeetings ← right.sideMeetings? scope left
      return leftMeetings ++ rightMeetings
  | .isNull _ operand =>
    if operand.properties = [] then some [] else operand.operandMeetings? scope none
  | .like kind operand pattern => do
    let text ← (← pattern.constant? scope).text?
    return [⟨.text (kind.apply text), operand.property?⟩]
  | .inList _ operand items =>
    items.mapM fun item => (item.constant? scope).map fun value => ⟨value, operand.property?⟩
  | .property name => some [⟨.bool true, some name⟩]
  | .literal _ | .captured _ | .field _ _ | .arithmetic _ _ _ => some []

end Expr

/-- What an assignment of an UPDATE binds. The current time is not bound. -/
def Assignment.meeting? (assignment : Assignment) : Option Meeting :=
  match assignment.op with
  | .now => none
  | .assign | .add | .subtract => some ⟨assignment.value, some assignment.key⟩

/-!
## Meetings of a predicate
-/

theorem Expr.operandMeetings?_columnFree {scope : Scope} {beside : Option String} :
    {expr : Expr} → expr.properties = [] →
    expr.operandMeetings? scope beside =
      (expr.constant? scope).map fun value => [⟨value, beside⟩]
  | .property _, columnFree => nomatch columnFree
  | .arithmetic op left right, columnFree => by
      have sides : left.properties ++ right.properties = [] := columnFree
      rw [operandMeetings?, if_pos sides]
  | .literal _, _ | .captured _, _ | .field .., _ | .compare .., _ | .and .., _ | .or .., _
  | .not _, _ | .like .., _ | .isNull .., _ | .inList .., _ => rfl

namespace Context

/-- The values of meetings are bound by the slots, in order. -/
abbrev BindsMeetings (entity : Entity) (meetings : List Meeting) (slots : List Slot) : Prop :=
  List.Forall₂ (fun meeting slot => meeting.BoundAs entity slot.value slot.dataType) meetings slots

variable {context : Context} {entity : Entity} {expr : Expr} {operand : Operand}
  {beside : Option String} {partner : Option ResolvedColumn} {coerced : Bool}

/-- What stands beside an expression that is a property alone is coerced beside its column. -/
def Lends (context : Context) (beside : Option String) (partner : Option ResolvedColumn)
    (coerced : Bool) : Prop :=
  ∀ property, beside = some property →
    coerced = true ∧ ∃ column, context.column property = .ok column ∧ partner = some column

theorem lends_none : context.Lends none partner coerced := nofun

theorem Classifies.lends_property (classified : context.Classifies expr operand) :
    context.Lends expr.property? operand.column? true := by
  intro property same
  cases classified with
  | property found =>
      cases same
      exact ⟨rfl, _, found, rfl⟩
  | _ => cases same

theorem partnerSlot_boundAs (known : context.entity = some entity)
    (lent : context.Lends beside partner coerced) {value : Value} {slot : Slot}
    (placed : context.partnerSlot value partner coerced = .ok slot) :
    Meeting.BoundAs entity ⟨value, beside⟩ slot.value slot.dataType where
  coerced := partnerSlot_coerced placed
  declared := by
    intro property same
    obtain ⟨rfl, column, found, rfl⟩ := lent property same
    obtain ⟨target, resolved, rfl⟩ := column_known known found
    exact ⟨target, resolved, partnerSlot_declared placed⟩

private theorem value_meetings (known : context.entity = some entity) {value : Value}
    (classified : context.Classifies expr (.value value))
    (lent : context.Lends beside partner coerced) {term : Term}
    (written : context.Writes (.value value) partner coerced term) :
    ∃ meetings, expr.operandMeetings? context.bindings beside = some meetings ∧
      BindsMeetings entity meetings term.fragment.slots := by
  have columnFree := classified.column?_eq_none_iff.mp rfl
  cases written with
  | value placed =>
      refine ⟨[⟨value, beside⟩], ?_, .cons (partnerSlot_boundAs known lent placed) .nil⟩
      rw [Expr.operandMeetings?_columnFree columnFree, classifies_value_iff.mp classified]
      rfl

/-- Writing an operand binds what it meets. Inside arithmetic nothing is lent. -/
theorem Writes.meetings (known : context.entity = some entity)
    (classified : context.Classifies expr operand) (lent : context.Lends beside partner coerced)
    {term : Term} (written : context.Writes operand partner coerced term) :
    ∃ meetings, expr.operandMeetings? context.bindings beside = some meetings ∧
      BindsMeetings entity meetings term.fragment.slots := by
  induction classified generalizing beside partner coerced term with
  | literal => exact value_meetings known .literal lent written
  | captured found => exact value_meetings known (.captured found) lent written
  | field found => exact value_meetings known (.field found) lent written
  | folded left right applied =>
      exact value_meetings known (.folded left right applied) lent written
  | property =>
      cases written
      exact ⟨[], rfl, .nil⟩
  | @computed op left right leftOperand rightOperand column leftClassified rightClassified named
      leftIH rightIH =>
      have computed : context.Classifies (.arithmetic op left right)
          (.computed op leftOperand rightOperand column) :=
        .computed leftClassified rightClassified named
      have bears : ¬left.properties ++ right.properties = [] := computed.properties_ne_nil rfl
      cases written with
      | computed leftWritten rightWritten =>
          obtain ⟨leftMeetings, leftOk, leftBound⟩ := leftIH lends_none leftWritten
          obtain ⟨rightMeetings, rightOk, rightBound⟩ := rightIH lends_none rightWritten
          refine ⟨leftMeetings ++ rightMeetings, ?_, ?_⟩
          · rw [Expr.operandMeetings?, if_neg bears, leftOk, rightOk]
            rfl
          · rw [Term.fragment, Fragment.slots_parenthesized, Fragment.slots_append,
              Fragment.slots_fixed]
            exact List.rel_append leftBound rightBound

variable {left right : Expr} {leftOperand rightOperand : Operand}

/-- A side of a comparison binds what it meets on the other side. -/
private theorem side_meetings (known : context.entity = some entity)
    (classified : context.Classifies left leftOperand)
    (otherClassified : context.Classifies right rightOperand)
    (notNull : leftOperand ≠ .value .null) {term : Term}
    (written : context.Writes leftOperand rightOperand.column? true term) :
    ∃ meetings, left.sideMeetings? context.bindings right = some meetings ∧
      BindsMeetings entity meetings term.fragment.slots := by
  rw [Expr.sideMeetings?, if_neg (classified.isNullConstant_iff.not.mpr notNull)]
  exact written.meetings known classified otherClassified.lends_property

/-- The side that is tested for null beside a null binds what is inside it. -/
private theorem tested_meetings (known : context.entity = some entity)
    (classified : context.Classifies expr operand) (bears : operand.column?.isSome = true)
    {term : Term} (written : context.Writes operand none false term) {null : Expr}
    (nullClassified : context.Classifies null (.value .null)) :
    null.sideMeetings? context.bindings expr = some [] ∧
      ∃ meetings, expr.sideMeetings? context.bindings null = some meetings ∧
        BindsMeetings entity meetings term.fragment.slots := by
  have notNull : operand ≠ .value .null := by
    rintro rfl
    cases bears
  have noProperty : null.property? = none := by
    cases nullClassified <;> rfl
  refine ⟨if_pos (nullClassified.isNullConstant_iff.mpr rfl), ?_⟩
  rw [Expr.sideMeetings?, if_neg (classified.isNullConstant_iff.not.mpr notNull), noProperty]
  exact written.meetings known classified lends_none

/-- The comparison of sides that name a property binds what its sides bind. -/
private theorem comparison_meetings {op : Relation}
    (leftClassified : context.Classifies left leftOperand)
    (rightClassified : context.Classifies right rightOperand)
    (bears : (leftOperand.column?.or rightOperand.column?).isSome = true)
    {leftMeetings rightMeetings : List Meeting}
    (leftOk : left.sideMeetings? context.bindings right = some leftMeetings)
    (rightOk : right.sideMeetings? context.bindings left = some rightMeetings) :
    (Expr.compare op left right).meetings? context.bindings =
      some (leftMeetings ++ rightMeetings) := by
  have named : ¬left.properties ++ right.properties = [] := by
    intro columnFree
    obtain ⟨leftFree, rightFree⟩ := List.append_eq_nil_iff.mp columnFree
    rw [leftClassified.column?_eq_none_iff.mpr leftFree,
      rightClassified.column?_eq_none_iff.mpr rightFree] at bears
    cases bears
  rw [Expr.meetings?, if_neg named, leftOk, rightOk]
  rfl

private theorem item_meetings (known : context.entity = some entity) {name : String}
    {column : ResolvedColumn} (found : context.column name = .ok column) {items : List Expr}
    {slots : List Slot} (placed : List.Forall₂ (context.ItemSlot column) items slots) :
    ∃ meetings,
      (items.mapM fun item => (item.constant? context.bindings).map fun value =>
        Meeting.mk value (some name)) = some meetings ∧ BindsMeetings entity meetings slots := by
  have lent := (Classifies.property found).lends_property
  induction placed with
  | nil => exact ⟨[], rfl, .nil⟩
  | cons first _ ih =>
      obtain ⟨value, classified, placed⟩ := first
      obtain ⟨meetings, meetingsOk, bound⟩ := ih
      have met := partnerSlot_boundAs known lent placed
      refine ⟨⟨value, some name⟩ :: meetings, ?_, .cons met bound⟩
      rw [List.mapM_cons, classifies_value_iff.mp classified, meetingsOk]
      rfl

/-- The slots of a condition bind what its predicate meets. -/
theorem Lowers.meetings (known : context.entity = some entity) {condition : Condition}
    (lowered : context.Lowers expr condition) :
    ∃ meetings, expr.meetings? context.bindings = some meetings ∧
      BindsMeetings entity meetings condition.fragment.slots := by
  induction lowered with
  | and _ _ leftIH rightIH | or _ _ leftIH rightIH =>
      obtain ⟨leftMeetings, leftOk, leftBound⟩ := leftIH
      obtain ⟨rightMeetings, rightOk, rightBound⟩ := rightIH
      refine ⟨leftMeetings ++ rightMeetings, by simp [Expr.meetings?, leftOk, rightOk], ?_⟩
      simpa [Condition.fragment] using List.rel_append leftBound rightBound
  | not _ ih => simpa [Expr.meetings?, Condition.fragment] using ih
  | truth | captured | field => exact ⟨[], rfl, .nil⟩
  | property found _ placed =>
      have lent := (Classifies.property found).lends_property
      exact ⟨_, rfl, .cons (partnerSlot_boundAs known lent placed) .nil⟩
  | decided left right =>
      refine ⟨[], ?_, .nil⟩
      rw [Expr.meetings?, left.column?_eq_none_iff.mp rfl, right.column?_eq_none_iff.mp rfl]
      rfl
  | nullLeft left right bears written =>
      obtain ⟨leftOk, meetings, rightOk, bound⟩ := tested_meetings known right bears written left
      refine ⟨meetings, comparison_meetings left right bears leftOk rightOk, ?_⟩
      simpa [Condition.fragment] using bound
  | nullRight left right bears written =>
      obtain ⟨rightOk, meetings, leftOk, bound⟩ := tested_meetings known left bears written right
      refine ⟨meetings ++ [], comparison_meetings left right ?_ leftOk rightOk, ?_⟩
      · rw [Operand.column?, Option.or_none]
        exact bears
      · simpa [Condition.fragment] using bound
  | compared left right leftNotNull rightNotNull bears leftWritten rightWritten =>
      obtain ⟨leftMeetings, leftOk, leftBound⟩ :=
        side_meetings known left right leftNotNull leftWritten
      obtain ⟨rightMeetings, rightOk, rightBound⟩ :=
        side_meetings known right left rightNotNull rightWritten
      refine ⟨_, comparison_meetings left right bears leftOk rightOk, ?_⟩
      simpa [Condition.fragment] using List.rel_append leftBound rightBound
  | like operand _ pattern placed =>
      cases operand with
      | property found =>
          have lent := (Classifies.property found).lends_property
          refine ⟨_, ?_, .cons (partnerSlot_boundAs known lent placed) .nil⟩
          rw [Expr.meetings?, classifies_value_iff.mp pattern]
          rfl
  | valueTest operand =>
      refine ⟨[], ?_, .nil⟩
      rw [Expr.meetings?, if_pos (operand.column?_eq_none_iff.mp rfl)]
  | nullTest operand bears written =>
      obtain ⟨meetings, meetingsOk, bound⟩ := written.meetings known operand lends_none
      refine ⟨meetings, ?_, by simpa [Condition.fragment] using bound⟩
      rw [Expr.meetings?, if_neg (operand.properties_ne_nil bears)]
      exact meetingsOk
  | emptyList operand => exact ⟨[], rfl, .nil⟩
  | list operand _ placed =>
      cases operand with
      | property found =>
          obtain ⟨meetings, meetingsOk, bound⟩ := item_meetings known found placed
          refine ⟨meetings, meetingsOk, ?_⟩
          rwa [Condition.fragment, Fragment.slots_name, Fragment.slots_fixed,
            Fragment.slots_parenthesized, Fragment.slots_joined_slots]

/-!
## Meetings of an UPDATE
-/

variable {assignments : List Assignment}

/-- An assignment binds its value beside the column that its key resolves to. -/
theorem assignment_meetings (known : context.entity = some entity)
    {assignment resolved : Assignment} {part : Fragment}
    (resolves : context.resolvedAssignment assignment = .ok resolved)
    (writes : context.assignmentFragment resolved = .ok part) :
    BindsMeetings entity assignment.meeting?.toList part.slots := by
  obtain ⟨key, op, value, dataType⟩ := assignment
  simp only [resolvedAssignment, known] at resolves
  obtain ⟨column, found, resolves⟩ := Result.bind_eq_ok_iff.mp resolves
  obtain ⟨assigned, assignedOk, written⟩ := Result.bind_eq_ok_iff.mp writes
  cases written
  cases op with
  | now =>
      cases resolves
      cases assignedOk
      exact .nil
  | assign | add | subtract =>
      obtain ⟨converted, coerced, resolves⟩ := Result.bind_eq_ok_iff.mp resolves
      cases resolves
      obtain ⟨slot, placed, assignedOk⟩ := Result.bind_eq_ok_iff.mp assignedOk
      cases assignedOk
      obtain rfl := slot_eq placed
      have declared : ∀ property, some key = some property →
          ∃ target, entity.resolve property = .ok target ∧ column.dataType = target.dataType := by
        rintro _ ⟨⟩
        exact ⟨column, found, rfl⟩
      exact .cons ⟨Value.coerce_name coerced, declared⟩ .nil

theorem setFragment_meetings (known : context.entity = some entity) {fragment : Fragment}
    (written : context.setFragment assignments = .ok fragment) :
    BindsMeetings entity (assignments.filterMap Assignment.meeting?) fragment.slots := by
  obtain ⟨-, resolved, parts, resolves, writes, rfl⟩ := setFragment_eq_ok_iff.mp written
  rw [Fragment.slots_fixed, Fragment.slots_joined, List.filterMap_eq_flatMap_toList]
  clear written
  induction resolves generalizing parts with
  | nil =>
      cases writes
      exact .nil
  | cons first _ ih =>
      cases writes with
      | cons firstWritten restWritten =>
          exact List.rel_append (assignment_meetings known first firstWritten) (ih _ restWritten)

end Context

/-!
## Parameters
-/

namespace Slot

variable {slots : List Slot}

/-- What holds of the values and types of slots holds of the parameters made of them. -/
theorem forall₂_parametersFrom {α : Type} (relates : α → Value → DataType → Prop) {items : List α}
    (related : List.Forall₂ (fun item slot => relates item slot.value slot.dataType) items slots)
    (position : Nat) :
    List.Forall₂ (fun item parameter => relates item parameter.value parameter.dataType) items
      (parametersFrom position slots) := by
  induction related generalizing position with
  | nil => exact .nil
  | cons first _ ih => exact .cons first (ih (position + 1))

theorem parametersFrom_fits (fits : ∀ slot ∈ slots, slot.value.Fits slot.dataType)
    (position : Nat) :
    ∀ parameter ∈ parametersFrom position slots, parameter.value.Fits parameter.dataType := by
  intro parameter member
  have related := forall₂_parametersFrom (fun _ => Value.Fits) (List.forall₂_same.mpr fits)
    position
  obtain ⟨_, _, fits⟩ := Result.exists_of_mem related member
  exact fits

end Slot

theorem Meeting.BoundAs.fits {entity : Entity} {meeting : Meeting} {value : Value}
    {dataType : DataType} (bound : meeting.BoundAs entity value dataType) : value.Fits dataType :=
  Value.coerce_ok_fits (bound.coerced "")

/-- Binding a fragment adds parameters that fit if its slots do, and that bind what its slots
bind. -/
theorem Fragment.bind_fits (settings : Settings) (before : Parameters) {fragment : Fragment}
    (fits : ∀ slot ∈ fragment.slots, slot.value.Fits slot.dataType) :
    ∃ added, (fragment.bind settings before).toList = before.toList ++ added ∧
      (∀ parameter ∈ added, parameter.value.Fits parameter.dataType) ∧
      (settings.useParameters = true → ∀ entity meetings,
        Context.BindsMeetings entity meetings fragment.slots →
        List.Forall₂ (Meeting.BoundBy entity) meetings added) := by
  rw [bind_toList]
  by_cases binds : settings.useParameters = true
  · rw [if_pos binds]
    exact ⟨_, rfl, Slot.parametersFrom_fits fits before.size,
      fun _ _ _ bound => Slot.forall₂_parametersFrom _ bound before.size⟩
  · rw [if_neg binds]
    exact ⟨[], rfl, List.forall_mem_nil _, fun bound => absurd bound binds⟩

namespace Clause

/-- The parameters that a predicate adds, and those that the SET clause of an entity adds, fit their
declared types. With an entity and with binding, each parameter has the value of one meeting of the
clause, in order, coerced to the type of the parameter. A value that meets the column of a property
directly, in a comparison, a list or a text search, or that is assigned to it, added to it or
subtracted from it, is bound with the type of that column. -/
theorem render_typed (settings : Settings) (scope : Option Scope) (before : Parameters) :
    (∀ (expr : Expr) (entity : Option Entity) (text : String) (after : Parameters),
      (predicate expr).render settings scope entity before = .ok (text, after) →
      ∃ added, after.toList = before.toList ++ added ∧
        (∀ parameter ∈ added, parameter.value.Fits parameter.dataType) ∧
        ∀ known, entity = some known → settings.useParameters = true →
          ∃ meetings, expr.meetings? (scope.getD .empty) = some meetings ∧
            List.Forall₂ (Meeting.BoundBy known) meetings added) ∧
    ∀ (assignments : List Assignment) (entity : Entity) (text : String) (after : Parameters),
      (set assignments).render settings scope (some entity) before = .ok (text, after) →
      ∃ added, after.toList = before.toList ++ added ∧
        (∀ parameter ∈ added, parameter.value.Fits parameter.dataType) ∧
        (settings.useParameters = true →
          List.Forall₂ (Meeting.BoundBy entity) (assignments.filterMap Assignment.meeting?)
            added) := by
  constructor
  · intro expr entity text after rendered
    obtain ⟨condition, lowered, _, rfl⟩ := render_predicate_eq_ok_iff.mp rendered
    have fits : ∀ slot ∈ condition.fragment.slots, slot.value.Fits slot.dataType :=
      fun slot member => (lowered.slots_placed slot member).fits
    obtain ⟨added, split, added_fit, bound⟩ := Fragment.bind_fits settings before fits
    refine ⟨added, split, added_fit, ?_⟩
    rintro known rfl binds
    obtain ⟨meetings, meetingsOk, met⟩ := lowered.meetings rfl
    exact ⟨meetings, meetingsOk, bound binds known meetings met⟩
  · intro assignments entity text after rendered
    obtain ⟨fragment, written, made⟩ := Result.bind_eq_ok_iff.mp rendered
    cases made
    have met := Context.setFragment_meetings rfl written
    have fits : ∀ slot ∈ fragment.slots, slot.value.Fits slot.dataType := by
      intro slot member
      obtain ⟨_, _, bound⟩ := Result.exists_of_mem met member
      exact bound.fits
    obtain ⟨added, split, added_fit, bound⟩ := Fragment.bind_fits settings before fits
    exact ⟨added, split, added_fit, fun binds => bound binds entity _ met⟩

/-- Readings, whose levels are wide integers. -/
def sampleReadings : Entity where
  name := "Reading"
  table := "readings"
  columns :=
    [{ property := "level", column := "Level", dataType := .int64 },
      { property := "note", column := "Note", dataType := .string },
      { property := "seen", column := "SeenAt", dataType := .dateTime }]

/-- A predicate with values beside columns and one inside arithmetic. -/
def sampleLevels : Expr :=
  .and
    (.or (.compare .gt (.captured "limit") (.property "level"))
      (.like .contains (.property "note") (.literal (.text "x"))))
    (.and (.inList true (.property "level") [.literal (.int32 7), .literal .null])
      (.compare .le (.arithmetic .add (.property "level") (.literal (.int16 1)))
        (.property "level")))

def sampleRaise : List Assignment :=
  [.add "level" (.int16 1), .now "seen", .set "note" .null]

theorem render_typed_sampleReadings :
    (∃ text after,
      (predicate sampleLevels).render .standard (some (Scope.empty.bind "limit" (.int16 5)))
          (some sampleReadings) .empty = .ok (text, after) ∧
      after.toList =
        [⟨"Level_0", .int64 5, .int64⟩, ⟨"Note_1", .text "%x%", .string⟩,
          ⟨"Level_2", .int64 7, .int64⟩, ⟨"Level_3", .null, .int64⟩,
          ⟨"Level_4", .int16 1, .int16⟩] ∧
      List.Forall₂ (Meeting.BoundBy sampleReadings)
        [⟨.int16 5, some "level"⟩, ⟨.text "%x%", some "note"⟩, ⟨.int32 7, some "level"⟩,
          ⟨.null, some "level"⟩, ⟨.int16 1, none⟩] after.toList) ∧
    ∃ text after,
      (set sampleRaise).render .standard none (some sampleReadings) .empty = .ok (text, after) ∧
      after.toList = [⟨"Level_0", .int64 1, .int64⟩, ⟨"Note_1", .null, .string⟩] ∧
      ∀ parameter ∈ after.toList, parameter.value.Fits parameter.dataType := by
  constructor
  · obtain ⟨predicates, _⟩ := render_typed .standard
      (some (Scope.empty.bind "limit" (.int16 5))) .empty
    refine ⟨_, _, rfl, rfl, ?_⟩
    obtain ⟨added, split, _, bound⟩ := predicates sampleLevels (some sampleReadings) _ _ rfl
    obtain ⟨meetings, meetingsOk, bound⟩ := bound sampleReadings rfl rfl
    cases meetingsOk
    rw [split]
    exact bound
  · obtain ⟨_, updates⟩ := render_typed .standard none .empty
    refine ⟨_, _, rfl, rfl, ?_⟩
    obtain ⟨added, split, fits, _⟩ := updates sampleRaise sampleReadings _ _ rfl
    rw [split]
    exact fits

end Clause

end QueryText
