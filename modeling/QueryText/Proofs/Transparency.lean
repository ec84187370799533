import QueryText.Proofs.Instantiation

/-!
# Transparency of captures

A predicate reads its captured variables through their values only. Every position that may hold a
variable or arithmetic without properties treats it as the literal of its value: conditions, sides
of comparisons, patterns and items of lists. So a predicate is rendered as its instantiation.
-/

set_option autoImplicit false

namespace QueryText

namespace Context

variable {context : Context}

/-!
## Predicates
-/

/-- Whatever an expression is classified as here, another is classified as there. -/
def Carries (source target : Context) (expr plain : Expr) : Prop :=
  ∀ operand, source.Classifies expr operand → target.Classifies plain operand

section Carried

variable {source target : Context} {left right plainLeft plainRight : Expr} {condition : Condition}

theorem partnerSlot_sameMode (mode : source.useParameters = target.useParameters) (value : Value)
    (partner : Option ResolvedColumn) (coerced : Bool) :
    source.partnerSlot value partner coerced = target.partnerSlot value partner coerced := by
  simp only [partnerSlot, slot, mode]

theorem Writes.sameMode (mode : source.useParameters = target.useParameters) {operand : Operand}
    {partner : Option ResolvedColumn} {coerced : Bool} {term : Term}
    (written : source.Writes operand partner coerced term) :
    target.Writes operand partner coerced term := by
  induction written with
  | value placed => exact .value (partnerSlot_sameMode mode _ _ _ ▸ placed)
  | column => exact .column
  | computed _ _ leftIH rightIH => exact .computed leftIH rightIH

theorem Lowers.compare_carried (mode : source.useParameters = target.useParameters)
    (leftCarried : source.Carries target left plainLeft)
    (rightCarried : source.Carries target right plainRight) {op : Relation}
    (lowered : source.Lowers (.compare op left right) condition) :
    target.Lowers (.compare op plainLeft plainRight) condition := by
  cases lowered with
  | decided left right compared =>
      exact .decided (leftCarried _ left) (rightCarried _ right) compared
  | nullLeft left right bears written =>
      exact .nullLeft (leftCarried _ left) (rightCarried _ right) bears (written.sameMode mode)
  | nullRight left right bears written =>
      exact .nullRight (leftCarried _ left) (rightCarried _ right) bears (written.sameMode mode)
  | compared left right leftNotNull rightNotNull bears leftWritten rightWritten =>
      exact .compared (leftCarried _ left) (rightCarried _ right) leftNotNull rightNotNull bears
        (leftWritten.sameMode mode) (rightWritten.sameMode mode)

theorem Lowers.like_carried (mode : source.useParameters = target.useParameters)
    (leftCarried : source.Carries target left plainLeft)
    (rightCarried : source.Carries target right plainRight) {kind : TextSearch}
    (lowered : source.Lowers (.like kind left right) condition) :
    target.Lowers (.like kind plainLeft plainRight) condition := by
  cases lowered with
  | like operand typed pattern placed =>
      exact .like (leftCarried _ operand) typed (rightCarried _ pattern)
        (partnerSlot_sameMode mode _ _ _ ▸ placed)

theorem Lowers.isNull_carried (mode : source.useParameters = target.useParameters)
    (carried : source.Carries target left plainLeft) {negated : Bool}
    (lowered : source.Lowers (.isNull negated left) condition) :
    target.Lowers (.isNull negated plainLeft) condition := by
  cases lowered with
  | valueTest operand => exact .valueTest (carried _ operand)
  | nullTest operand bears written =>
      exact .nullTest (carried _ operand) bears (written.sameMode mode)

private theorem itemSlots_carried (mode : source.useParameters = target.useParameters)
    {column : ResolvedColumn} {items plains : List Expr} {slots : List Slot}
    (carried : List.Forall₂ (source.Carries target) items plains)
    (placed : List.Forall₂ (source.ItemSlot column) items slots) :
    List.Forall₂ (target.ItemSlot column) plains slots := by
  induction carried generalizing slots with
  | nil =>
      cases placed
      exact .nil
  | cons first _ ih =>
      cases placed with
      | cons firstPlaced restPlaced =>
          obtain ⟨value, classified, placed⟩ := firstPlaced
          exact .cons ⟨value, first _ classified, partnerSlot_sameMode mode _ _ _ ▸ placed⟩
            (ih restPlaced)

theorem Lowers.inList_carried (mode : source.useParameters = target.useParameters)
    (operandCarried : source.Carries target left plainLeft) {items plains : List Expr}
    (itemsCarried : List.Forall₂ (source.Carries target) items plains) {negated : Bool}
    (lowered : source.Lowers (.inList negated left items) condition) :
    target.Lowers (.inList negated plainLeft plains) condition := by
  cases lowered with
  | emptyList operand =>
      cases itemsCarried
      exact .emptyList (operandCarried _ operand)
  | list operand filled placed =>
      refine .list (operandCarried _ operand) ?_ (itemSlots_carried mode itemsCarried placed)
      rintro rfl
      cases itemsCarried
      exact filled rfl

end Carried

private theorem itemSlots_instantiate {column : ResolvedColumn} {items : List Expr}
    {slots : List Slot} (placed : List.Forall₂ (context.ItemSlot column) items slots) :
    ∃ plains, Expr.instantiatedItems? context.bindings items = some plains := by
  induction placed with
  | nil => exact ⟨[], rfl⟩
  | cons first _ ih =>
      obtain ⟨value, classified, _⟩ := first
      obtain ⟨plain, firstOk⟩ := classified.instantiates
      obtain ⟨plains, restOk⟩ := ih
      exact ⟨_, by rw [Expr.instantiatedItems?, firstOk, restOk]; rfl⟩

/-- Every predicate that becomes a condition can be instantiated. -/
theorem Lowers.instantiates {expr : Expr} {condition : Condition}
    (lowered : context.Lowers expr condition) :
    ∃ plain, expr.instantiated? context.bindings = some plain := by
  induction lowered with
  | and _ _ leftIH rightIH | or _ _ leftIH rightIH =>
      obtain ⟨plainLeft, leftOk⟩ := leftIH
      obtain ⟨plainRight, rightOk⟩ := rightIH
      exact ⟨_, by rw [Expr.instantiated?, leftOk, rightOk]; rfl⟩
  | not _ ih =>
      obtain ⟨plain, operandOk⟩ := ih
      exact ⟨_, by rw [Expr.instantiated?, operandOk]; rfl⟩
  | truth | property => exact ⟨_, rfl⟩
  | captured found => exact Classifies.instantiates (.captured found)
  | field found => exact Classifies.instantiates (.field found)
  | decided left right | nullLeft left right | nullRight left right | compared left right
  | like left _ right =>
      obtain ⟨plainLeft, leftOk⟩ := left.instantiates
      obtain ⟨plainRight, rightOk⟩ := right.instantiates
      exact ⟨_, by rw [Expr.instantiated?, leftOk, rightOk]; rfl⟩
  | valueTest operand | nullTest operand =>
      obtain ⟨plain, operandOk⟩ := operand.instantiates
      exact ⟨_, by rw [Expr.instantiated?, operandOk]; rfl⟩
  | emptyList operand =>
      obtain ⟨plain, operandOk⟩ := operand.instantiates
      exact ⟨_, by rw [Expr.instantiated?, operandOk]; rfl⟩
  | list operand _ placed =>
      obtain ⟨plain, operandOk⟩ := operand.instantiates
      obtain ⟨plains, itemsOk⟩ := itemSlots_instantiate placed
      exact ⟨_, by rw [Expr.instantiated?, operandOk, itemsOk]; rfl⟩

private theorem carries_instantiated {expr plain : Expr}
    (instantiated : expr.instantiated? context.bindings = some plain) :
    context.Carries context.unbound expr plain ∧ context.unbound.Carries context plain expr :=
  ⟨fun _ => (classifies_instantiated expr instantiated).mp,
    fun _ => (classifies_instantiated expr instantiated).mpr⟩

/-- A literal decides a predicate as the captured value does that it stands for. -/
private theorem lowers_capture {member plain : Expr} {condition : Condition}
    (instantiated : (context.bindings.valueOf? member).map Expr.literal = some plain) :
    (∃ holds, context.captureValue member = .ok (.bool holds) ∧ condition = .truth holds) ↔
      context.unbound.Lowers plain condition := by
  obtain ⟨value, found, rfl⟩ := Option.map_eq_some_iff.mp instantiated
  rw [← captureValue_eq_ok_iff] at found
  rw [found]
  constructor
  · rintro ⟨holds, same, rfl⟩
    cases same
    exact .truth
  · intro lowered
    cases lowered with
    | truth => exact ⟨_, rfl, rfl⟩

/-- An instantiated predicate becomes, without any variable, the condition that the predicate
becomes. -/
theorem lowers_instantiated : (expr : Expr) → {plain : Expr} →
    expr.instantiated? context.bindings = some plain → {condition : Condition} →
    (context.Lowers expr condition ↔ context.unbound.Lowers plain condition)
  | .literal value, plain, instantiated, condition => by
      cases instantiated
      constructor
      · intro lowered
        cases lowered with
        | truth => exact .truth
      · intro lowered
        cases lowered with
        | truth => exact .truth
  | .property name, plain, instantiated, condition => by
      cases instantiated
      constructor
      · intro lowered
        cases lowered with
        | property found typed placed => exact .property found typed placed
      · intro lowered
        cases lowered with
        | property found typed placed => exact .property found typed placed
  | .captured name, plain, instantiated, condition => by
      rw [← lowers_capture instantiated]
      constructor
      · intro lowered
        cases lowered with
        | captured found => exact ⟨_, found, rfl⟩
      · rintro ⟨holds, found, rfl⟩
        exact .captured found
  | .field base name, plain, instantiated, condition => by
      rw [← lowers_capture instantiated]
      constructor
      · intro lowered
        cases lowered with
        | field found => exact ⟨_, found, rfl⟩
      · rintro ⟨holds, found, rfl⟩
        exact .field found
  | .and left right, plain, instantiated, condition => by
      obtain ⟨plainLeft, leftOk, instantiated⟩ := Option.bind_eq_some_iff.mp instantiated
      obtain ⟨plainRight, rightOk, instantiated⟩ := Option.bind_eq_some_iff.mp instantiated
      cases instantiated
      simp only [lowers_and_iff, lowers_instantiated left leftOk, lowers_instantiated right rightOk]
  | .or left right, plain, instantiated, condition => by
      obtain ⟨plainLeft, leftOk, instantiated⟩ := Option.bind_eq_some_iff.mp instantiated
      obtain ⟨plainRight, rightOk, instantiated⟩ := Option.bind_eq_some_iff.mp instantiated
      cases instantiated
      simp only [lowers_or_iff, lowers_instantiated left leftOk, lowers_instantiated right rightOk]
  | .not operand, plain, instantiated, condition => by
      obtain ⟨plainOperand, operandOk, instantiated⟩ := Option.bind_eq_some_iff.mp instantiated
      cases instantiated
      simp only [lowers_not_iff, lowers_instantiated operand operandOk]
  | .compare op left right, plain, instantiated, condition => by
      obtain ⟨plainLeft, leftOk, instantiated⟩ := Option.bind_eq_some_iff.mp instantiated
      obtain ⟨plainRight, rightOk, instantiated⟩ := Option.bind_eq_some_iff.mp instantiated
      cases instantiated
      obtain ⟨leftThere, leftBack⟩ := carries_instantiated leftOk
      obtain ⟨rightThere, rightBack⟩ := carries_instantiated rightOk
      exact ⟨.compare_carried context.mode_unbound leftThere rightThere,
        .compare_carried context.mode_unbound.symm leftBack rightBack⟩
  | .like kind left right, plain, instantiated, condition => by
      obtain ⟨plainLeft, leftOk, instantiated⟩ := Option.bind_eq_some_iff.mp instantiated
      obtain ⟨plainRight, rightOk, instantiated⟩ := Option.bind_eq_some_iff.mp instantiated
      cases instantiated
      obtain ⟨leftThere, leftBack⟩ := carries_instantiated leftOk
      obtain ⟨rightThere, rightBack⟩ := carries_instantiated rightOk
      exact ⟨.like_carried context.mode_unbound leftThere rightThere,
        .like_carried context.mode_unbound.symm leftBack rightBack⟩
  | .isNull negated operand, plain, instantiated, condition => by
      obtain ⟨plainOperand, operandOk, instantiated⟩ := Option.bind_eq_some_iff.mp instantiated
      cases instantiated
      obtain ⟨there, back⟩ := carries_instantiated operandOk
      exact ⟨.isNull_carried context.mode_unbound there,
        .isNull_carried context.mode_unbound.symm back⟩
  | .inList negated operand items, plain, instantiated, condition => by
      obtain ⟨plainOperand, operandOk, instantiated⟩ := Option.bind_eq_some_iff.mp instantiated
      obtain ⟨plains, itemsOk, instantiated⟩ := Option.bind_eq_some_iff.mp instantiated
      cases instantiated
      obtain ⟨there, back⟩ := carries_instantiated operandOk
      rw [Expr.instantiatedItems?_eq_some_iff] at itemsOk
      have itemsThere : List.Forall₂ (context.Carries context.unbound) items plains :=
        itemsOk.imp fun _ _ itemOk => (carries_instantiated itemOk).1
      have itemsBack : List.Forall₂ (context.unbound.Carries context) plains items :=
        (itemsOk.imp fun _ _ itemOk => (carries_instantiated itemOk).2).flip
      exact ⟨.inList_carried context.mode_unbound there itemsThere,
        .inList_carried context.mode_unbound.symm back itemsBack⟩
  | .arithmetic op left right, plain, instantiated, condition => by
      refine iff_of_false nofun ?_
      rw [Expr.instantiated?] at instantiated
      split at instantiated
      · obtain ⟨value, constant, rfl⟩ := Option.map_eq_some_iff.mp instantiated
        intro lowered
        cases lowered with
        | truth =>
            cases classifies_value_iff.mpr constant with
            | folded _ _ applied => exact Value.arithmetic_ne_bool applied
      · obtain ⟨plainLeft, _, instantiated⟩ := Option.bind_eq_some_iff.mp instantiated
        obtain ⟨plainRight, _, instantiated⟩ := Option.bind_eq_some_iff.mp instantiated
        cases instantiated
        exact nofun

end Context

/-!
## Rendering
-/

namespace Clause

theorem render_eq_ok_iff_instantiated {settings : Settings} {scope : Option Scope}
    {entity : Option Entity} {expr : Expr} {before : Parameters} {result : String × Parameters} :
    (predicate expr).render settings scope entity before = .ok result ↔
      ∃ plain, expr.instantiated? (scope.getD .empty) = some plain ∧
        (predicate plain).render settings (some .empty) entity before = .ok result := by
  obtain ⟨text, after⟩ := result
  simp only [render_predicate_eq_ok_iff]
  constructor
  · intro given
    obtain ⟨condition, lowered, written⟩ := given
    obtain ⟨plain, instantiated⟩ := lowered.instantiates
    have plainLowered := (Context.lowers_instantiated expr instantiated).mp lowered
    exact ⟨plain, instantiated, condition, plainLowered, written⟩
  · intro given
    obtain ⟨plain, instantiated, condition, plainLowered, written⟩ := given
    have known : expr.instantiated? (settings.context scope entity).bindings = some plain :=
      instantiated
    have lowered : (settings.context scope entity).Lowers expr condition :=
      (Context.lowers_instantiated expr known).mpr plainLowered
    exact ⟨condition, lowered, written⟩

/-- Captured variables and host arithmetic are transparent. A predicate is rendered exactly if it
can be instantiated, so that all its captures lead to values and all its arithmetic without
properties has a result, and the instantiated predicate is rendered without any variable. Both
then have the same text and bind the same parameters. So two scopes that agree on what a predicate
captures render it alike. -/
theorem render_instantiated (settings : Settings) (scope : Option Scope) (entity : Option Entity)
    (expr : Expr) (before : Parameters) :
    (∀ plain, expr.instantiated? (scope.getD .empty) = some plain → plain.captures = []) ∧
    (∀ result, (predicate expr).render settings scope entity before = .ok result ↔
      ∃ plain, expr.instantiated? (scope.getD .empty) = some plain ∧
        (predicate plain).render settings (some .empty) entity before = .ok result) ∧
    ∀ other : Option Scope, (scope.getD .empty).AgreeOn (other.getD .empty) expr.captures →
      ∀ result, (predicate expr).render settings scope entity before = .ok result ↔
        (predicate expr).render settings other entity before = .ok result := by
  refine ⟨fun plain => Expr.captures_instantiated expr, fun result => ?_, ?_⟩
  · exact render_eq_ok_iff_instantiated
  · intro other agree result
    rw [render_eq_ok_iff_instantiated, render_eq_ok_iff_instantiated,
      Expr.instantiated?_congr expr agree]

/-- A predicate that captures as a condition, in arithmetic, for a pattern and in a list. -/
def sampleSearch : Expr :=
  .and
    (.or (.captured "all")
      (.compare .gt (.arithmetic .add (.property "Age") (.captured "margin"))
        (.arithmetic .multiply (.field (.captured "limits") "age") (.literal (.int32 2)))))
    (.and (.like .startsWith (.property "Name") (.captured "prefix"))
      (.inList false (.property "Id") [.captured "margin", .field (.captured "limits") "age"]))

def sampleVariables : Scope :=
  (((Scope.empty.bind "all" (.bool false)).bind "margin" (.int32 5)).bind "prefix"
    (.text "A")).bindObject "limits" (Scope.empty.bind "age" (.int32 9))

/-- Other variables, of which the captured ones have the same values. -/
def sampleOtherVariables : Scope :=
  ((((Scope.empty.bindObject "limits" ((Scope.empty.bind "size" .null).bind "age" (.int32 9))).bind
    "prefix" (.text "A")).bind "margin" (.int32 5)).bind "unused" (.int64 0)).bind "all"
    (.bool false)

def sampleSearched : Expr :=
  .and
    (.or (.literal (.bool false))
      (.compare .gt (.arithmetic .add (.property "Age") (.literal (.int32 5)))
        (.literal (.int32 18))))
    (.and (.like .startsWith (.property "Name") (.literal (.text "A")))
      (.inList false (.property "Id") [.literal (.int32 5), .literal (.int32 9)]))

theorem render_instantiated_sampleSearch :
    ∃ text after,
      text = "((1=0) OR (([Age] + @Age_0) > @Age_1)) AND " ++
        "(([Name] LIKE @Name_2) AND ([Id] IN (@Id_3,@Id_4)))" ∧
      (predicate sampleSearch).render .standard (some sampleVariables) none .empty =
        .ok (text, after) ∧
      sampleSearch.instantiated? sampleVariables = some sampleSearched ∧
      (predicate sampleSearched).render .standard (some .empty) none .empty = .ok (text, after) ∧
      (predicate sampleSearch).render .standard (some sampleOtherVariables) none .empty =
        .ok (text, after) := by
  obtain ⟨text, after, spelled, rendered⟩ : ∃ text after,
      text = "((1=0) OR (([Age] + @Age_0) > @Age_1)) AND " ++
        "(([Name] LIKE @Name_2) AND ([Id] IN (@Id_3,@Id_4)))" ∧
      (predicate sampleSearch).render .standard (some sampleVariables) none .empty =
        .ok (text, after) := ⟨_, _, by decide +kernel, rfl⟩
  obtain ⟨_, transparent, agreeing⟩ :=
    render_instantiated .standard (some sampleVariables) none sampleSearch .empty
  have instantiated : sampleSearch.instantiated? sampleVariables = some sampleSearched := rfl
  obtain ⟨plain, plainOk, plainRendered⟩ := (transparent (text, after)).mp rendered
  obtain rfl : plain = sampleSearched := Option.some.inj (plainOk.symm.trans instantiated)
  refine ⟨text, after, spelled, rendered, instantiated, plainRendered, ?_⟩
  refine (agreeing (some sampleOtherVariables) ?_ (text, after)).mp rendered
  have captures : sampleSearch.captures =
      [.captured "all", .captured "margin", .field (.captured "limits") "age", .captured "prefix",
        .captured "margin", .field (.captured "limits") "age"] := rfl
  simp only [Scope.AgreeOn, captures, List.forall_mem_cons]
  exact ⟨rfl, rfl, rfl, rfl, rfl, rfl, List.forall_mem_nil _⟩

end Clause

end QueryText
