import QueryText.Proofs.Renaming

/-!
# Instantiation

What an expression captures, and what it computes without a column, can be put into it as literals
beforehand. The expression that results captures nothing, and it is rendered without any variable
exactly as the expression is rendered with them. Where one of the variables leads to no value or one
of the computations fails, the expression is not rendered either.
-/

set_option autoImplicit false

namespace QueryText

/-!
## Instantiated expressions
-/

namespace Scope

/-- What a variable or a chain of members leads to. -/
def reached? (scope : Scope) : Expr → Option Capture
  | .captured name => scope.get? name
  | .field base name =>
    match scope.reached? base with
    | some (.object members) => members.get? name
    | _ => none
  | _ => none

/-- The value that a variable or a chain of members leads to. An object is no value. -/
def valueOf? (scope : Scope) (member : Expr) : Option Value :=
  match scope.reached? member with
  | some (.value value) => some value
  | _ => none

/-- Both scopes lead the same variables and chains of members to the same values. -/
def AgreeOn (scope other : Scope) (members : List Expr) : Prop :=
  ∀ member ∈ members, scope.valueOf? member = other.valueOf? member

end Scope

namespace Expr

/-- What an expression without properties computes. -/
def constant? (scope : Scope) : Expr → Option Value
  | .literal value => some value
  | .captured name => scope.valueOf? (.captured name)
  | .field base name => scope.valueOf? (.field base name)
  | .arithmetic op left right => do
    let leftValue ← left.constant? scope
    let rightValue ← right.constant? scope
    (Value.arithmetic op leftValue rightValue).toOption
  | _ => none

mutual

/-- The variables and chains of members that an expression captures. -/
def captures : Expr → List Expr
  | .literal _ | .property _ => []
  | .captured name => [.captured name]
  | .field base name => [.field base name]
  | .compare _ left right | .and left right | .or left right | .like _ left right
  | .arithmetic _ left right => left.captures ++ right.captures
  | .not operand | .isNull _ operand => operand.captures
  | .inList _ operand items => operand.captures ++ itemCaptures items

def itemCaptures : List Expr → List Expr
  | [] => []
  | item :: items => item.captures ++ itemCaptures items

end

mutual

/-- The expression with the values of what it captures, and of its arithmetic without properties, as
literals. -/
def instantiated? (scope : Scope) : Expr → Option Expr
  | .literal value => some (.literal value)
  | .property name => some (.property name)
  | .captured name => (scope.valueOf? (.captured name)).map .literal
  | .field base name => (scope.valueOf? (.field base name)).map .literal
  | .compare op left right => do
    let left ← left.instantiated? scope
    let right ← right.instantiated? scope
    return .compare op left right
  | .and left right => do
    let left ← left.instantiated? scope
    let right ← right.instantiated? scope
    return .and left right
  | .or left right => do
    let left ← left.instantiated? scope
    let right ← right.instantiated? scope
    return .or left right
  | .not operand => do
    let operand ← operand.instantiated? scope
    return .not operand
  | .like kind operand pattern => do
    let operand ← operand.instantiated? scope
    let pattern ← pattern.instantiated? scope
    return .like kind operand pattern
  | .isNull negated operand => do
    let operand ← operand.instantiated? scope
    return .isNull negated operand
  | .inList negated operand items => do
    let operand ← operand.instantiated? scope
    let items ← instantiatedItems? scope items
    return .inList negated operand items
  | .arithmetic op left right =>
    if (Expr.arithmetic op left right).properties = [] then
      ((Expr.arithmetic op left right).constant? scope).map .literal
    else do
      let left ← left.instantiated? scope
      let right ← right.instantiated? scope
      return .arithmetic op left right

def instantiatedItems? (scope : Scope) : List Expr → Option (List Expr)
  | [] => some []
  | item :: items => do
    let item ← item.instantiated? scope
    let items ← instantiatedItems? scope items
    return item :: items

end

theorem instantiatedItems?_eq_some_iff {scope : Scope} {items plains : List Expr} :
    instantiatedItems? scope items = some plains ↔
      List.Forall₂ (fun item plain => item.instantiated? scope = some plain) items plains := by
  induction items generalizing plains with
  | nil =>
      rw [instantiatedItems?, List.forall₂_nil_left_iff, Option.some.injEq]
      exact eq_comm
  | cons item rest ih =>
      simp only [instantiatedItems?, bind, Option.bind_eq_some_iff, pure, Option.some.injEq, ih,
        List.forall₂_cons_left_iff]
      constructor
      · intro given
        obtain ⟨first, firstOk, others, othersOk, rfl⟩ := given
        exact ⟨first, others, firstOk, othersOk, rfl⟩
      · intro given
        obtain ⟨first, others, firstOk, othersOk, rfl⟩ := given
        exact ⟨first, firstOk, others, othersOk, rfl⟩

/-!
## Captures of an instantiated expression
-/

private theorem captures_literal {found : Option Value} {plain : Expr}
    (instantiated : found.map Expr.literal = some plain) : plain.captures = [] := by
  obtain ⟨value, _, rfl⟩ := Option.map_eq_some_iff.mp instantiated
  rfl

mutual

/-- An instantiated expression captures nothing. -/
theorem captures_instantiated {scope : Scope} : (expr : Expr) → {plain : Expr} →
    expr.instantiated? scope = some plain → plain.captures = []
  | .literal _, plain, instantiated | .property _, plain, instantiated => by
      cases instantiated
      rfl
  | .captured _, plain, instantiated | .field _ _, plain, instantiated =>
      captures_literal instantiated
  | .compare _ left right, plain, instantiated | .and left right, plain, instantiated
  | .or left right, plain, instantiated | .like _ left right, plain, instantiated => by
      obtain ⟨plainLeft, leftOk, instantiated⟩ := Option.bind_eq_some_iff.mp instantiated
      obtain ⟨plainRight, rightOk, instantiated⟩ := Option.bind_eq_some_iff.mp instantiated
      cases instantiated
      exact List.append_eq_nil_iff.mpr
        ⟨captures_instantiated left leftOk, captures_instantiated right rightOk⟩
  | .not operand, plain, instantiated | .isNull _ operand, plain, instantiated => by
      obtain ⟨plainOperand, operandOk, instantiated⟩ := Option.bind_eq_some_iff.mp instantiated
      cases instantiated
      change plainOperand.captures = []
      exact captures_instantiated operand operandOk
  | .inList _ operand items, plain, instantiated => by
      obtain ⟨plainOperand, operandOk, instantiated⟩ := Option.bind_eq_some_iff.mp instantiated
      obtain ⟨plains, itemsOk, instantiated⟩ := Option.bind_eq_some_iff.mp instantiated
      cases instantiated
      exact List.append_eq_nil_iff.mpr
        ⟨captures_instantiated operand operandOk, itemCaptures_instantiated items itemsOk⟩
  | .arithmetic _ left right, plain, instantiated => by
      rw [instantiated?] at instantiated
      split at instantiated
      · exact captures_literal instantiated
      · obtain ⟨plainLeft, leftOk, instantiated⟩ := Option.bind_eq_some_iff.mp instantiated
        obtain ⟨plainRight, rightOk, instantiated⟩ := Option.bind_eq_some_iff.mp instantiated
        cases instantiated
        exact List.append_eq_nil_iff.mpr
          ⟨captures_instantiated left leftOk, captures_instantiated right rightOk⟩

theorem itemCaptures_instantiated {scope : Scope} : (items : List Expr) → {plains : List Expr} →
    instantiatedItems? scope items = some plains → itemCaptures plains = []
  | [], plains, instantiated => by
      cases instantiated
      rfl
  | item :: rest, plains, instantiated => by
      obtain ⟨plain, itemOk, instantiated⟩ := Option.bind_eq_some_iff.mp instantiated
      obtain ⟨others, restOk, instantiated⟩ := Option.bind_eq_some_iff.mp instantiated
      cases instantiated
      exact List.append_eq_nil_iff.mpr
        ⟨captures_instantiated item itemOk, itemCaptures_instantiated rest restOk⟩

end

/-!
## Scopes that agree
-/

variable {scope other : Scope}

theorem constant?_congr : (expr : Expr) → scope.AgreeOn other expr.captures →
    expr.constant? scope = expr.constant? other
  | .captured _, agree | .field _ _, agree => agree _ (List.mem_singleton_self _)
  | .arithmetic op left right, agree => by
      obtain ⟨leftAgree, rightAgree⟩ := List.forall_mem_append.mp agree
      rw [constant?, constant?, constant?_congr left leftAgree, constant?_congr right rightAgree]
  | .literal _, _ | .property _, _ | .compare .., _ | .and .., _ | .or .., _ | .not _, _
  | .like .., _ | .isNull .., _ | .inList .., _ => rfl

mutual

/-- An expression is instantiated alike by scopes that agree on what it captures. -/
theorem instantiated?_congr : (expr : Expr) → scope.AgreeOn other expr.captures →
    expr.instantiated? scope = expr.instantiated? other
  | .literal _, _ | .property _, _ => rfl
  | .captured _, agree | .field _ _, agree => by
      rw [instantiated?, instantiated?, agree _ (List.mem_singleton_self _)]
  | .compare _ left right, agree | .and left right, agree | .or left right, agree
  | .like _ left right, agree => by
      obtain ⟨leftAgree, rightAgree⟩ := List.forall_mem_append.mp agree
      rw [instantiated?, instantiated?, instantiated?_congr left leftAgree,
        instantiated?_congr right rightAgree]
  | .not operand, agree | .isNull _ operand, agree => by
      rw [instantiated?, instantiated?, instantiated?_congr operand agree]
  | .inList _ operand items, agree => by
      obtain ⟨operandAgree, itemsAgree⟩ := List.forall_mem_append.mp agree
      rw [instantiated?, instantiated?, instantiated?_congr operand operandAgree,
        instantiatedItems?_congr items itemsAgree]
  | .arithmetic op left right, agree => by
      have constant := constant?_congr (.arithmetic op left right) agree
      obtain ⟨leftAgree, rightAgree⟩ := List.forall_mem_append.mp agree
      rw [instantiated?, instantiated?, constant, instantiated?_congr left leftAgree,
        instantiated?_congr right rightAgree]

theorem instantiatedItems?_congr : (items : List Expr) → scope.AgreeOn other (itemCaptures items) →
    instantiatedItems? scope items = instantiatedItems? other items
  | [], _ => rfl
  | item :: rest, agree => by
      obtain ⟨itemAgrees, restAgree⟩ := List.forall_mem_append.mp agree
      rw [instantiatedItems?, instantiatedItems?, instantiated?_congr item itemAgrees,
        instantiatedItems?_congr rest restAgree]

end

end Expr

namespace Value

/-- Arithmetic never decides anything: its result is no truth value. -/
theorem arithmetic_ne_bool {op : ArithmeticOp} {left right : Value} {holds : Bool} :
    arithmetic op left right ≠ .ok (.bool holds) := by
  intro applied
  unfold arithmetic at applied
  split at applied
  · cases applied
  · split at applied
    · obtain ⟨number, _, applied⟩ := Result.bind_eq_ok_iff.mp applied
      unfold narrow ofInteger? at applied
      split at applied
      · next found =>
        cases applied
        split at found
        · split at found <;> cases found
        · cases found
      · cases applied
    · split at applied
      · obtain ⟨number, _, applied⟩ := Result.bind_eq_ok_iff.mp applied
        cases applied
      · unfold textResult at applied
        split at applied <;> cases applied

end Value

namespace Context

/-!
## Captured values
-/

/-- The captured variables; there are none without a scope. -/
def bindings (context : Context) : Scope :=
  context.scope.getD .empty

/-- The same surroundings without captured variables. -/
def unbound (context : Context) : Context :=
  { context with scope := some .empty }

theorem mode_unbound (context : Context) :
    context.useParameters = context.unbound.useParameters := rfl

variable {context : Context}

theorem captured_eq_ok_iff {member : Expr} {capture : Capture} :
    context.captured member = .ok capture ↔ context.bindings.reached? member = some capture := by
  fun_induction Context.captured context member generalizing capture with
  | case1 name scope known =>
      rw [bindings, known, Option.getD_some, Scope.reached?, Scope.lookup]
      cases scope.get? name <;> simp
  | case2 name unknown =>
      rw [bindings, unknown, Option.getD_none, Scope.reached?]
      simp [Scope.get?]
  | case3 base name ih =>
      rw [Result.bind_eq_ok_iff, Scope.reached?]
      cases result : context.captured base with
      | error error =>
          have missing : context.bindings.reached? base = none :=
            Option.eq_none_iff_forall_ne_some.mpr fun found reached => by
              rw [ih.mpr reached] at result
              cases result
          simp [missing]
      | ok found =>
          rw [ih.mp result]
          cases found with
          | value value => simp
          | object members => cases member : members.get? name <;> simp [member]
  | case4 name => simp [Scope.reached?]
  | case5 other noCapture noField noProperty =>
      cases other with
      | captured name => exact absurd rfl (noCapture name)
      | field base name => exact absurd rfl (noField base name)
      | _ => simp [Scope.reached?]

theorem captureValue_eq_ok_iff {member : Expr} {value : Value} :
    context.captureValue member = .ok value ↔ context.bindings.valueOf? member = some value := by
  rw [captureValue, Result.bind_eq_ok_iff, Scope.valueOf?]
  simp only [captured_eq_ok_iff]
  cases context.bindings.reached? member with
  | none => simp
  | some capture => cases capture <;> simp

/-!
## Operands
-/

/-- An expression names a property exactly if it is classified as something with a column. -/
theorem Classifies.column?_eq_none_iff {expr : Expr} {operand : Operand}
    (classified : context.Classifies expr operand) :
    operand.column? = none ↔ expr.properties = [] := by
  induction classified with
  | literal | captured => exact iff_of_true rfl rfl
  | property => exact iff_of_false (Option.some_ne_none _) (List.cons_ne_nil _ _)
  | field found => exact iff_of_true rfl (captureValue_properties found)
  | folded _ _ _ leftIH rightIH =>
      exact iff_of_true rfl (List.append_eq_nil_iff.mpr ⟨leftIH.mp rfl, rightIH.mp rfl⟩)
  | computed _ _ named leftIH rightIH =>
      refine iff_of_false (Option.some_ne_none _) fun columnFree => ?_
      obtain ⟨leftFree, rightFree⟩ := List.append_eq_nil_iff.mp columnFree
      rw [leftIH.mpr leftFree, rightIH.mpr rightFree] at named
      cases named

theorem Classifies.of_columnFree {expr : Expr} {operand : Operand}
    (classified : context.Classifies expr operand) (columnFree : expr.properties = []) :
    ∃ value, operand = .value value := by
  have bare := classified.column?_eq_none_iff.mpr columnFree
  cases operand with
  | value value => exact ⟨value, rfl⟩
  | column | computed => cases bare

theorem classifies_value_iff : {expr : Expr} → {value : Value} →
    (context.Classifies expr (.value value) ↔ expr.constant? context.bindings = some value)
  | .literal given, value => by
      constructor
      · rintro ⟨⟩
        rfl
      · rintro ⟨⟩
        exact .literal
  | .property name, value => iff_of_false nofun nofun
  | .captured name, value => by
      rw [Expr.constant?, ← captureValue_eq_ok_iff]
      constructor
      · rintro ⟨⟩
        assumption
      · exact .captured
  | .field base name, value => by
      rw [Expr.constant?, ← captureValue_eq_ok_iff]
      constructor
      · rintro ⟨⟩
        assumption
      · exact .field
  | .arithmetic op left right, value => by
      simp only [Expr.constant?, bind, Option.bind_eq_some_iff, ← classifies_value_iff]
      constructor
      · intro classified
        cases classified with
        | folded leftClassified rightClassified applied =>
            exact ⟨_, leftClassified, _, rightClassified, by rw [applied]; rfl⟩
      · intro given
        obtain ⟨leftValue, leftClassified, rightValue, rightClassified, applied⟩ := given
        refine .folded leftClassified rightClassified ?_
        cases result : Value.arithmetic op leftValue rightValue with
        | error error =>
            rw [result] at applied
            cases applied
        | ok found =>
            rw [result] at applied
            cases applied
            rfl
  | .compare .., value | .and .., value | .or .., value | .not _, value | .like .., value
  | .isNull .., value | .inList .., value => iff_of_false nofun nofun

/-- Whatever is classified can be instantiated. -/
theorem Classifies.instantiates {expr : Expr} {operand : Operand}
    (classified : context.Classifies expr operand) :
    ∃ plain, expr.instantiated? context.bindings = some plain := by
  induction classified with
  | literal | property => exact ⟨_, rfl⟩
  | captured found | field found =>
      rw [captureValue_eq_ok_iff] at found
      exact ⟨_, by rw [Expr.instantiated?, found]; rfl⟩
  | @folded op left right leftValue rightValue value leftClassified rightClassified applied =>
      have folded : context.Classifies (.arithmetic op left right) (.value value) :=
        .folded leftClassified rightClassified applied
      have columnFree := folded.column?_eq_none_iff.mp rfl
      have constant := classifies_value_iff.mp folded
      exact ⟨_, by rw [Expr.instantiated?, if_pos columnFree, constant]; rfl⟩
  | @computed op left right leftOperand rightOperand column leftClassified rightClassified named
      leftIH rightIH =>
      obtain ⟨plainLeft, leftOk⟩ := leftIH
      obtain ⟨plainRight, rightOk⟩ := rightIH
      have computed : context.Classifies (.arithmetic op left right)
          (.computed op leftOperand rightOperand column) :=
        .computed leftClassified rightClassified named
      have bears : (Expr.arithmetic op left right).properties ≠ [] := fun columnFree =>
        absurd (computed.column?_eq_none_iff.mpr columnFree) (Option.some_ne_none _)
      exact ⟨_, by rw [Expr.instantiated?, if_neg bears, leftOk, rightOk]; rfl⟩

private theorem classifies_constant {expr : Expr} {value : Value} {operand : Operand}
    (constant : expr.constant? context.bindings = some value) :
    context.Classifies expr operand ↔ operand = .value value := by
  have classifiedValue := classifies_value_iff.mpr constant
  constructor
  · intro classified
    have columnFree := classifiedValue.column?_eq_none_iff.mp rfl
    obtain ⟨other, rfl⟩ := classified.of_columnFree columnFree
    rw [classifies_value_iff, constant] at classified
    rw [Option.some.inj classified]
  · rintro rfl
    exact classifiedValue

/-- The literal of a value is classified as the expression that has the value. -/
private theorem classifies_literal {expr plain : Expr} {operand : Operand}
    (instantiated : (expr.constant? context.bindings).map Expr.literal = some plain) :
    context.Classifies expr operand ↔ context.unbound.Classifies plain operand := by
  obtain ⟨value, constant, rfl⟩ := Option.map_eq_some_iff.mp instantiated
  exact (classifies_constant constant).trans (classifies_constant rfl).symm

/-- An instantiated expression is classified, without any variable, as the expression is. -/
theorem classifies_instantiated : (expr : Expr) → {plain : Expr} →
    expr.instantiated? context.bindings = some plain → {operand : Operand} →
    (context.Classifies expr operand ↔ context.unbound.Classifies plain operand)
  | .literal value, plain, instantiated, operand => classifies_literal instantiated
  | .captured name, plain, instantiated, operand => classifies_literal instantiated
  | .field base name, plain, instantiated, operand => classifies_literal instantiated
  | .property name, plain, instantiated, operand => by
      cases instantiated
      constructor
      · intro classified
        cases classified with
        | property found => exact .property found
      · intro classified
        cases classified with
        | property found => exact .property found
  | .arithmetic op left right, plain, instantiated, operand => by
      rw [Expr.instantiated?] at instantiated
      split at instantiated
      · exact classifies_literal instantiated
      · next bears =>
        obtain ⟨plainLeft, leftOk, instantiated⟩ := Option.bind_eq_some_iff.mp instantiated
        obtain ⟨plainRight, rightOk, instantiated⟩ := Option.bind_eq_some_iff.mp instantiated
        cases instantiated
        constructor
        · intro classified
          cases classified with
          | folded leftClassified rightClassified applied =>
              exact absurd ((Classifies.folded leftClassified rightClassified
                applied).column?_eq_none_iff.mp rfl) bears
          | computed leftClassified rightClassified named =>
              exact .computed ((classifies_instantiated left leftOk).mp leftClassified)
                ((classifies_instantiated right rightOk).mp rightClassified) named
        · intro classified
          cases classified with
          | folded leftClassified rightClassified applied =>
              exact absurd ((Classifies.folded
                ((classifies_instantiated left leftOk).mpr leftClassified)
                ((classifies_instantiated right rightOk).mpr rightClassified)
                applied).column?_eq_none_iff.mp rfl) bears
          | computed leftClassified rightClassified named =>
              exact .computed ((classifies_instantiated left leftOk).mpr leftClassified)
                ((classifies_instantiated right rightOk).mpr rightClassified) named
  | .compare .., plain, instantiated, operand | .and .., plain, instantiated, operand
  | .or .., plain, instantiated, operand | .like .., plain, instantiated, operand
  | .inList .., plain, instantiated, operand => by
      obtain ⟨_, _, instantiated⟩ := Option.bind_eq_some_iff.mp instantiated
      obtain ⟨_, _, instantiated⟩ := Option.bind_eq_some_iff.mp instantiated
      cases instantiated
      exact iff_of_false nofun nofun
  | .not _, plain, instantiated, operand | .isNull .., plain, instantiated, operand => by
      obtain ⟨_, _, instantiated⟩ := Option.bind_eq_some_iff.mp instantiated
      cases instantiated
      exact iff_of_false nofun nofun

end Context

end QueryText
