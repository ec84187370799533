import QueryText.Proofs.Position
import QueryText.Proofs.Removal
import QueryText.Proofs.Resolution

/-!
# Equations

A key with a value can be stored in a column, which is an assignment, or asked for, which is a
comparison. A SET clause of assignments and the conjunction of the comparisons resolve the same
keys, bind the same parameters and have the same first error, although the clause resolves all of
its keys before it binds the first value and the predicate takes one comparison after the other.
-/

set_option autoImplicit false

namespace QueryText

/-- A key with the value that its column is to have, which is not null. -/
structure Equation where
  key : String
  value : Value
  notNull : value.isNull = false

namespace Equation

def assignment (equation : Equation) : Assignment :=
  .set equation.key equation.value

def comparison (equation : Equation) : Expr :=
  .compare .eq (.property equation.key) (.literal equation.value)

def assignments (equations : List Equation) : List Assignment :=
  equations.map assignment

def conjunction (first : Equation) (rest : List Equation) : Expr :=
  (rest.map comparison).foldl .and first.comparison

end Equation

/-- The assignment that stores a slot in the column that it is named after. -/
def Slot.assignment (slot : Slot) : Assignment :=
  ⟨slot.base, .assign, slot.value, slot.dataType⟩

/-- The comparison of the column that a slot is named after with the slot. -/
def Condition.equation (slot : Slot) : Condition :=
  .comparison .eq (.column slot.base) (.slot slot)

def Condition.conjunction (first : Condition) (slots : List Slot) : Condition :=
  (slots.map equation).foldl .and first

/-!
## Slots of equations
-/

namespace Context

variable {context : Context}

/-- The slot of an equation's value beside the column that its key resolves to. -/
def equationSlot (context : Context) (equation : Equation) : Except RenderError Slot := do
  let column ← context.column equation.key
  context.partnerSlot equation.value (some column) true

theorem partnerSlot_base {value : Value} {column : ResolvedColumn} {coerced : Bool} {slot : Slot}
    (placed : context.partnerSlot value (some column) coerced = .ok slot) :
    slot.base = column.name := by
  obtain ⟨name, declared⟩ := column
  cases declared with
  | none => exact congrArg Slot.base (slot_eq placed)
  | some dataType =>
      cases coerced with
      | false => exact congrArg Slot.base (slot_eq placed)
      | true =>
          obtain ⟨value, _, made⟩ := Result.bind_eq_ok_iff.mp placed
          exact congrArg Slot.base (slot_eq made)

theorem condition_equation (equation : Equation) :
    context.condition equation.comparison =
      (context.equationSlot equation).map Condition.equation := by
  obtain ⟨key, value, notNull⟩ := equation
  have compared : context.condition (.compare .eq (.property key) (.literal value)) = do
      let column ← context.column key
      let slot ← context.partnerSlot value (some column) true
      return .comparison .eq (.column column.name) (.slot slot) := by
    rw [condition, comparison, operand, operand]
    cases context.column key with
    | error error => rfl
    | ok column =>
        cases value with
        | null => cases notNull
        | _ =>
            simp only [bind, Except.bind, pure, Except.pure, term, Operand.column?]
            cases context.partnerSlot _ (some column) true <;> rfl
  rw [Equation.comparison, compared, equationSlot]
  cases context.column key with
  | error error => rfl
  | ok column =>
      change (context.partnerSlot value (some column) true >>= fun slot => pure _) =
        (context.partnerSlot value (some column) true).map _
      cases placed : context.partnerSlot value (some column) true with
      | error error => rfl
      | ok slot =>
          rw [Except.map, Condition.equation, partnerSlot_base placed]
          rfl

theorem resolvedAssignment_equation (binds : context.useParameters = true) (equation : Equation) :
    context.resolvedAssignment equation.assignment =
      (context.equationSlot equation).map Slot.assignment := by
  obtain ⟨key, value, notNull⟩ := equation
  cases known : context.entity with
  | none =>
      have placed : context.equationSlot ⟨key, value, notNull⟩ =
          .ok ⟨key, value, value.dataType⟩ := by
        rw [equationSlot, column, known]
        exact slot_bound binds key value value.dataType
      rw [placed, resolvedAssignment, known]
      rfl
  | some entity =>
      rw [resolvedAssignment, equationSlot, column, known]
      simp only [Equation.assignment, Assignment.set, Assignment.arithmetic]
      cases entity.resolve key with
      | error error => rfl
      | ok column =>
          change (value.coerce column.dataType column.column >>= fun value => pure _) =
            (value.coerce column.dataType column.column >>= fun value =>
              context.slot column.column value column.dataType).map _
          cases value.coerce column.dataType column.column with
          | error error => rfl
          | ok value =>
              change _ = (context.slot column.column value column.dataType).map _
              rw [slot_bound binds]
              rfl

theorem assignmentFragment_slot (binds : context.useParameters = true) (slot : Slot) :
    context.assignmentFragment slot.assignment =
      .ok [.name slot.base, .fixed "=", .slot slot] := by
  have placed : context.assignmentSlot slot.assignment = .ok slot :=
    slot_bound binds slot.base slot.value slot.dataType
  rw [assignmentFragment_assign rfl, placed]
  rfl

/-- A SET clause of equations stores the slots of the equations. -/
theorem setFragment_equations (binds : context.useParameters = true) (first : Equation)
    (rest : List Equation) :
    context.setFragment (Equation.assignments (first :: rest)) =
      ((first :: rest).mapM context.equationSlot).map Fragment.updatedSlots := by
  have resolved : (Equation.assignments (first :: rest)).mapM context.resolvedAssignment =
      ((first :: rest).mapM context.equationSlot).map (List.map Slot.assignment) := by
    rw [Equation.assignments, List.mapM_map]
    exact Result.mapM_map fun equation _ => resolvedAssignment_equation binds equation
  have written : ∀ slots : List Slot,
      (slots.map Slot.assignment).mapM context.assignmentFragment =
        .ok (slots.map fun slot => [.name slot.base, .fixed "=", .slot slot]) := by
    intro slots
    have each : context.assignmentFragment ∘ Slot.assignment = fun slot =>
        pure [.name slot.base, .fixed "=", .slot slot] := funext (assignmentFragment_slot binds)
    rw [List.mapM_map, each]
    exact List.mapM_pure
  change ((Equation.assignments (first :: rest)).mapM context.resolvedAssignment >>= fun resolved =>
    resolved.mapM context.assignmentFragment >>= fun written => pure _) = _
  rw [resolved]
  cases (first :: rest).mapM context.equationSlot with
  | error error => rfl
  | ok slots =>
      change ((slots.map Slot.assignment).mapM context.assignmentFragment >>= fun written =>
        pure _) = _
      rw [written]
      rfl

/-- A conjunction of equations compares the slots of the equations. -/
theorem condition_conjunction (first : Equation) (rest : List Equation) :
    context.condition (Equation.conjunction first rest) = do
      let slot ← context.equationSlot first
      let slots ← rest.mapM context.equationSlot
      return (Condition.equation slot).conjunction slots := by
  have others : (rest.map Equation.comparison).mapM context.condition =
      (rest.mapM context.equationSlot).map (List.map Condition.equation) := by
    rw [List.mapM_map]
    exact Result.mapM_map fun equation _ => condition_equation equation
  rw [Equation.conjunction, condition_foldl_and, condition_equation, others]
  cases context.equationSlot first with
  | error error => rfl
  | ok slot => cases rest.mapM context.equationSlot <;> rfl

end Context

/-!
## Texts of equations
-/

/-- The quoted column and the marker of each slot, the first of which takes the given position. -/
def Dialect.sides (dialect : Dialect) (position : Nat) : List Slot → List (String × String)
  | [] => []
  | slot :: rest =>
    (dialect.quotedName slot.base, dialect.marker (parameterName slot.base position)) ::
      dialect.sides (position + 1) rest

/-- The text of a conjunction, nested to the left, from the texts of its parts. -/
def conjunctionText : List String → String
  | [] => ""
  | first :: rest =>
    rest.foldl (fun text next => parenthesizedText text ++ (" AND " ++ parenthesizedText next))
      first

theorem Settings.after_slot {settings : Settings} (binds : settings.useParameters = true)
    (bound : Nat) (slot : Slot) : settings.after bound [slot] = bound + 1 :=
  if_pos binds

namespace Condition

variable {settings : Settings}

theorem slots_conjunction (first : Condition) (slots : List Slot) :
    (first.conjunction slots).fragment.slots = first.fragment.slots ++ slots := by
  induction slots generalizing first with
  | nil => simp [conjunction]
  | cons slot rest ih =>
      have tail : (first.conjunction (slot :: rest)) =
          (and first (equation slot)).conjunction rest := rfl
      rw [tail, ih]
      simp [fragment, equation, Term.fragment]

theorem text_equation (binds : settings.useParameters = true) (slot : Slot) (bound : Nat) :
    (equation slot).fragment.text settings bound =
      settings.dialect.quotedName slot.base ++ (" = " ++
        settings.dialect.marker (parameterName slot.base bound)) := by
  simp [equation, fragment, Term.fragment, Settings.slotText, binds, Relation.symbol]

theorem text_conjunction (binds : settings.useParameters = true) (first : Condition)
    (slots : List Slot) (bound : Nat) :
    (first.conjunction slots).fragment.text settings bound =
      conjunctionText (first.fragment.text settings bound ::
        (settings.dialect.sides (settings.after bound first.fragment.slots) slots).map
          fun (column, marker) => column ++ (" = " ++ marker)) := by
  induction slots generalizing first with
  | nil => rfl
  | cons slot rest ih =>
      have text : (and first (equation slot)).fragment.text settings bound =
          parenthesizedText (first.fragment.text settings bound) ++ (" AND " ++
            parenthesizedText ((equation slot).fragment.text settings
              (settings.after bound first.fragment.slots))) := by
        simp [fragment]
      have bases : (and first (equation slot)).fragment.slots = first.fragment.slots ++ [slot] := by
        simp [fragment, equation, Term.fragment]
      have tail : (first.conjunction (slot :: rest)) =
          (and first (equation slot)).conjunction rest := rfl
      rw [tail, ih, text, bases, settings.after_append, text_equation binds,
        Settings.after_slot binds]
      rfl

end Condition

theorem Fragment.text_updatedSlots {settings : Settings} (binds : settings.useParameters = true)
    (slots : List Slot) (bound : Nat) :
    (updatedSlots slots).text settings bound =
      "SET " ++ String.intercalate "," ((settings.dialect.sides bound slots).map
        fun (column, marker) => column ++ ("=" ++ marker)) := by
  have parts : texts settings bound
      (slots.map fun slot => [.name slot.base, .fixed "=", .slot slot]) =
      (settings.dialect.sides bound slots).map
        fun (column, marker) => column ++ ("=" ++ marker) := by
    induction slots generalizing bound with
    | nil => rfl
    | cons slot rest ih =>
        rw [List.map_cons, texts, slots_name, slots_fixed, slots_slot, slots_nil,
          Settings.after_slot binds, ih, text_name, text_fixed, text_slot, text_nil,
          Settings.slotText, if_pos binds, String.append_empty]
        rfl
  rw [updatedSlots, text_fixed, text_joined, parts]

/-!
## SET and WHERE
-/

namespace Clause

/-- A SET clause of equations and the predicate that asks for the same equations fail with the same
error, or both bind the slots of the equations in their order, and each assignment has the quoted
column and the marker of its comparison. Values are to be bound. -/
theorem render_equations {settings : Settings} (binds : settings.useParameters = true)
    (scope : Option Scope) (entity : Option Entity) (before : Parameters) (first : Equation)
    (rest : List Equation) :
    (∃ error,
      (set (Equation.assignments (first :: rest))).render settings scope entity before =
        .error error ∧
      (predicate (Equation.conjunction first rest)).render settings scope entity before =
        .error error) ∨
    ∃ slots,
      List.Forall₂ (fun equation slot =>
        (settings.context scope entity).equationSlot equation = .ok slot) (first :: rest) slots ∧
      (set (Equation.assignments (first :: rest))).render settings scope entity before =
        .ok ("SET " ++ String.intercalate "," ((settings.dialect.sides before.size slots).map
            fun (column, marker) => column ++ ("=" ++ marker)),
          before.extended slots) ∧
      (predicate (Equation.conjunction first rest)).render settings scope entity before =
        .ok (conjunctionText ((settings.dialect.sides before.size slots).map
            fun (column, marker) => column ++ (" = " ++ marker)),
          before.extended slots) := by
  have contextBinds : (settings.context scope entity).useParameters = true := binds
  have setting := Context.setFragment_equations contextBinds first rest
  have asking := (settings.context scope entity).condition_conjunction first rest
  rw [List.mapM_cons] at setting
  rw [render_predicate_eq, asking, render, Context.clauseFragment, setting]
  cases firstSlot : (settings.context scope entity).equationSlot first with
  | error error => exact .inl ⟨error, rfl, rfl⟩
  | ok slot =>
      cases restSlots : rest.mapM (settings.context scope entity).equationSlot with
      | error error => exact .inl ⟨error, rfl, rfl⟩
      | ok slots =>
          refine .inr ⟨slot :: slots, .cons firstSlot (Result.mapM_eq_ok_iff.mp restSlots),
            congrArg Except.ok (Prod.ext ?_ ?_), congrArg Except.ok (Prod.ext ?_ ?_)⟩
          · exact Fragment.text_updatedSlots binds (slot :: slots) before.size
          · have bound := Fragment.bind_bound binds (.updatedSlots (slot :: slots)) before
            rwa [Fragment.slots_updatedSlots] at bound
          · have text := Condition.text_conjunction binds (.equation slot) slots before.size
            have alone : (Condition.equation slot).fragment.slots = [slot] := rfl
            rwa [Condition.text_equation binds, alone, Settings.after_slot binds] at text
          · have bound := Fragment.bind_bound binds
              ((Condition.equation slot).conjunction slots).fragment before
            rwa [Condition.slots_conjunction] at bound

/-- People, whose age is a wide integer in a column of another name. -/
def samplePeople : Entity where
  name := "Person"
  table := "people"
  columns :=
    [{ property := "name", column := "Full.Name", dataType := .string },
      { property := "age", column := "Age]", dataType := .int64 }]

def sampleAge : Equation :=
  ⟨"age", .int16 7, rfl⟩

def sampleName : Equation :=
  ⟨"name", .text "Ada", rfl⟩

/-- The parameters before these equations hold one already. -/
theorem render_equations_sampleAge :
    let before := Parameters.empty.bind "Id" (.int32 1) .int32
    let slots : List Slot := [⟨"Age]", .int64 7, .int64⟩, ⟨"Full.Name", .text "Ada", .string⟩]
    Settings.standard.useParameters = true ∧
      (set (Equation.assignments [sampleAge, sampleName])).render .standard none
          (some samplePeople) before =
        .ok ("SET [Age]]]=@Age__1,[Full].[Name]=@Full_Name_2", before.extended slots) ∧
      (predicate (Equation.conjunction sampleAge [sampleName])).render .standard none
          (some samplePeople) before =
        .ok ("([Age]]] = @Age__1) AND ([Full].[Name] = @Full_Name_2)", before.extended slots) := by
  intro before slots
  have binds : Settings.standard.useParameters = true := rfl
  obtain ⟨error, failed, _⟩ | ⟨found, each, setting, asking⟩ :=
    render_equations binds none (some samplePeople) before sampleAge [sampleName]
  · cases failed
  obtain rfl : found = slots := by
    obtain _ | ⟨first, _ | ⟨second, _ | _⟩⟩ := each
    cases first
    cases second
    rfl
  have setText : "SET " ++ String.intercalate "," ((Dialect.sqlServer.sides 1 slots).map
      fun (column, marker) => column ++ ("=" ++ marker)) =
        "SET [Age]]]=@Age__1,[Full].[Name]=@Full_Name_2" := by decide +kernel
  have askedText : conjunctionText ((Dialect.sqlServer.sides 1 slots).map
      fun (column, marker) => column ++ (" = " ++ marker)) =
        "([Age]]] = @Age__1) AND ([Full].[Name] = @Full_Name_2)" := by decide +kernel
  rw [← setText, ← askedText]
  exact ⟨rfl, setting, asking⟩

end Clause

end QueryText
