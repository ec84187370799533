import QueryText.Proofs.Coercion
import QueryText.Proofs.Renaming

/-!
# Retyping by an entity

Besides renaming, an entity gives its columns types. A value that meets a typed column is coerced to
its type, and some values and columns are refused for their types. Nothing else depends on types.
The condition of the renamed predicate without the entity has the same pieces, its slots excepted,
which keep the values that they are given.
-/

set_option autoImplicit false

namespace QueryText

/-!
## Retyped values
-/

/-- A slot whose value is the plain one coerced to the slot's type. -/
structure Slot.Retyped (plain typed : Slot) : Prop where
  base : plain.base = typed.base
  value : ∀ name, plain.value.coerce typed.dataType name = .ok typed.value

inductive Piece.Retyped : Piece → Piece → Prop where
  | fixed {text : String} : Retyped (.fixed text) (.fixed text)
  | name {name : String} : Retyped (.name name) (.name name)
  | slot {plain typed : Slot} : plain.Retyped typed → Retyped (.slot plain) (.slot typed)

/-- Fragments that differ in the values and types of slots only. -/
abbrev Fragment.Retyped (plain typed : Fragment) : Prop :=
  List.Forall₂ Piece.Retyped plain typed

abbrev Term.Retyped (plain typed : Term) : Prop :=
  plain.fragment.Retyped typed.fragment

abbrev Condition.Retyped (plain typed : Condition) : Prop :=
  plain.fragment.Retyped typed.fragment

namespace Fragment

variable {plain typed plainLeft typedLeft plainRight typedRight : Fragment}

theorem Retyped.append (left : plainLeft.Retyped typedLeft)
    (right : plainRight.Retyped typedRight) :
    Retyped (plainLeft ++ plainRight) (typedLeft ++ typedRight) :=
  List.rel_append left right

/-- Two retyped fragments with a fixed text between them. -/
theorem Retyped.separated (left : plainLeft.Retyped typedLeft) (text : String)
    (right : plainRight.Retyped typedRight) :
    Retyped (plainLeft ++ .fixed text :: plainRight) (typedLeft ++ .fixed text :: typedRight) :=
  left.append (.cons .fixed right)

theorem Retyped.parenthesized (retyped : plain.Retyped typed) :
    Retyped (parenthesized plain) (parenthesized typed) :=
  .cons .fixed (retyped.append (.cons .fixed .nil))

theorem Retyped.slots {plain typed : List Slot} (retyped : List.Forall₂ Slot.Retyped plain typed) :
    Retyped (joined "," (plain.map fun item => [.slot item]))
      (joined "," (typed.map fun item => [.slot item])) := by
  induction retyped with
  | nil => exact .nil
  | cons first others ih =>
      cases others with
      | nil => exact .cons (.slot first) .nil
      | cons => exact .cons (.slot first) (.cons .fixed ih)

end Fragment

def RenderError.IsMismatch : RenderError → Prop
  | .typeMismatch _ _ _ => True
  | _ => False

namespace Value

variable {value coerced : Value} {target : DataType} {name : String}

theorem coerce_mismatch {error : RenderError} (failed : value.coerce target name = .error error) :
    error.IsMismatch := by
  unfold coerce at failed
  split at failed
  · cases failed
  · split at failed
    · cases failed
    · cases failed
      trivial

end Value

/-- A typed step that succeeds has a plain step beside it that succeeds with a related result. Where
only the typed step fails, it does so for a type. -/
structure Retypes {α β : Type} (relates : α → β → Prop) (plain : Except RenderError α)
    (typed : Except RenderError β) : Prop where
  succeeds : ∀ {result}, typed = .ok result → ∃ value, plain = .ok value ∧ relates value result
  mismatch : ∀ {value error}, plain = .ok value → typed = .error error → error.IsMismatch

namespace Retypes

variable {α β γ δ : Type} {relates : α → β → Prop} {relates' : γ → δ → Prop}
  {plain : Except RenderError α} {typed : Except RenderError β}

theorem pure {value : α} {result : β} (related : relates value result) :
    Retypes relates (.ok value) (.ok result) where
  succeeds := by
    rintro _ ⟨⟩
    exact ⟨value, rfl, related⟩
  mismatch := nofun

/-- Steps that fail alike. -/
theorem failed (error : RenderError) : Retypes relates (.error error) (.error error) where
  succeeds := nofun
  mismatch := nofun

theorem mismatched {error : RenderError} (mismatch : error.IsMismatch) :
    Retypes relates plain (.error error) where
  succeeds := nofun
  mismatch := by
    rintro _ _ _ ⟨⟩
    exact mismatch

theorem of_map {untype : β → α} (same : plain = typed.map untype) :
    Retypes (fun value result => value = untype result) plain typed := by
  rw [same]
  cases typed with
  | ok result => exact .pure rfl
  | error error => exact .failed error

theorem bind {next : α → Except RenderError γ} {typedNext : β → Except RenderError δ}
    (first : Retypes relates plain typed)
    (second : ∀ value result, relates value result →
      Retypes relates' (next value) (typedNext result)) :
    Retypes relates' (plain >>= next) (typed >>= typedNext) := by
  cases typedResult : typed with
  | ok result =>
      obtain ⟨value, valueOk, related⟩ := first.succeeds typedResult
      rw [valueOk]
      exact second value result related
  | error error =>
      cases plainResult : plain with
      | ok value => exact .mismatched (first.mismatch plainResult typedResult)
      | error other => exact ⟨nofun, nofun⟩

theorem mapM {ι : Type} {rename : ι → ι} {step : ι → Except RenderError α}
    {typedStep : ι → Except RenderError β} {items : List ι}
    (each : ∀ item ∈ items, Retypes relates (step (rename item)) (typedStep item)) :
    Retypes (List.Forall₂ relates) ((items.map rename).mapM step) (items.mapM typedStep) := by
  induction items with
  | nil => exact .pure .nil
  | cons item rest ih =>
      obtain ⟨first, others⟩ := List.forall_mem_cons.mp each
      rw [List.map_cons, List.mapM_cons, List.mapM_cons]
      refine first.bind fun value result related => (ih others).bind fun values results others => ?_
      exact .pure (.cons related others)

end Retypes

namespace Context

variable {context : Context} {entity : Entity} {rename : String → String}

theorem partnerSlot_retyped (binds : context.useParameters = true) (value : Value)
    (partner : Option ResolvedColumn) (coerced : Bool) :
    Retypes Slot.Retyped
      (context.untyped.partnerSlot value (partner.map ResolvedColumn.untyped) coerced)
      (context.partnerSlot value partner coerced) := by
  have plainBinds : context.untyped.useParameters = true := binds
  have same : ∀ base, Retypes Slot.Retyped (context.untyped.slot base value value.dataType)
      (context.slot base value value.dataType) := by
    intro base
    rw [slot_bound plainBinds, slot_bound binds]
    exact .pure ⟨rfl, value.coerce_self⟩
  match partner with
  | none => exact same "p"
  | some ⟨name, none⟩ => exact same name
  | some ⟨name, some dataType⟩ =>
      cases coerced with
      | false => exact same name
      | true =>
          change Retypes Slot.Retyped (context.untyped.slot name value value.dataType)
            (value.coerce dataType name >>= fun value => context.slot name value dataType)
          cases result : value.coerce dataType name with
          | error error => exact .mismatched (Value.coerce_mismatch result)
          | ok converted =>
              rw [slot_bound plainBinds]
              change Retypes Slot.Retyped _ (context.slot name converted dataType)
              rw [slot_bound binds]
              exact .pure ⟨rfl, Value.coerce_name result⟩

theorem term_retyped (binds : context.useParameters = true) (operand : Operand)
    (partner : Option ResolvedColumn) (coerced : Bool) :
    Retypes Term.Retyped
      (context.untyped.term operand.untyped (partner.map ResolvedColumn.untyped) coerced)
      (context.term operand partner coerced) := by
  induction operand generalizing partner coerced with
  | value value =>
      refine (partnerSlot_retyped binds value partner coerced).bind fun plain typed retyped => ?_
      exact .pure (.cons (.slot retyped) .nil)
  | column reference => exact .pure (.cons .name .nil)
  | computed op left right reference leftIH rightIH =>
      refine (leftIH (some reference) false).bind fun plainLeft typedLeft leftRetyped =>
        (rightIH (some reference) false).bind fun plainRight typedRight rightRetyped => ?_
      exact .pure (leftRetyped.separated _ rightRetyped).parenthesized

private theorem nullTested_retyped (binds : context.useParameters = true) (negated : Bool)
    (operand : Operand) :
    Retypes Condition.Retyped
      (do
        let term ← context.untyped.term operand.untyped none false
        return Condition.nullTest negated term)
      (do let term ← context.term operand none false; return Condition.nullTest negated term) := by
  refine (term_retyped binds operand none false).bind fun plain typed retyped => ?_
  exact .pure (retyped.append (.cons .fixed .nil))

theorem comparison_retyped (known : context.entity = some entity)
    (binds : context.useParameters = true) (op : Relation) (left right : Expr)
    (leftResolves : ∀ name ∈ left.properties, entity.Resolves name)
    (rightResolves : ∀ name ∈ right.properties, entity.Resolves name) :
    Retypes Condition.Retyped
      (context.untyped.comparison op (left.renamed entity.columnName)
        (right.renamed entity.columnName))
      (context.comparison op left right) := by
  refine (Retypes.of_map (operand_renamed known left leftResolves)).bind ?_
  rintro _ leftOperand rfl
  refine (Retypes.of_map (operand_renamed known right rightResolves)).bind ?_
  rintro _ rightOperand rfl
  split
  case h_1 leftValue rightValue leftSame rightSame =>
      obtain rfl := Operand.untyped_eq_value.mp leftSame
      obtain rfl := Operand.untyped_eq_value.mp rightSame
      change Retypes _ (Value.compared op leftValue rightValue >>= fun holds => pure _)
        (Value.compared op leftValue rightValue >>= fun holds => pure _)
      cases Value.compared op leftValue rightValue with
      | ok holds => exact .pure (.cons .fixed .nil)
      | error error => exact .failed error
  case h_2 leftSame noValue =>
      obtain rfl := Operand.untyped_eq_value.mp leftSame
      simp only [Operand.untyped_eq_value] at noValue
      simp only
      exact nullTested_retyped binds _ _
  case h_3 rightSame noValue =>
      obtain rfl := Operand.untyped_eq_value.mp rightSame
      simp only [Operand.untyped_eq_value] at noValue
      simp only
      exact nullTested_retyped binds _ _
  case h_4 leftNoNull rightNoNull noValues =>
      simp only [Operand.untyped_eq_value] at leftNoNull rightNoNull noValues
      simp only [Operand.column?_untyped]
      refine (term_retyped binds leftOperand rightOperand.column? true).bind
        fun plainLeft typedLeft leftRetyped =>
          (term_retyped binds rightOperand leftOperand.column? true).bind
            fun plainRight typedRight rightRetyped => ?_
      exact .pure (leftRetyped.separated _ rightRetyped)

private theorem likePattern_retyped (known : context.entity = some entity)
    (binds : context.useParameters = true) (kind : TextSearch) (column : ResolvedColumn)
    (pattern : Expr) (resolves : ∀ name ∈ pattern.properties, entity.Resolves name) :
    Retypes Condition.Retyped
      (do
        match ← context.untyped.operand (pattern.renamed entity.columnName) with
        | .value (.text text) =>
          let slot ← context.untyped.partnerSlot (.text (kind.apply text))
            (some column.untyped) true
          return Condition.like column.name slot
        | .value other => .error (.wrongType column.name .string other.dataType)
        | _ => .error (.unsupported pattern.kind "LIKE pattern"))
      (do
        match ← context.operand pattern with
        | .value (.text text) =>
          let slot ← context.partnerSlot (.text (kind.apply text)) (some column) true
          return Condition.like column.name slot
        | .value other => .error (.wrongType column.name .string other.dataType)
        | _ => .error (.unsupported pattern.kind "LIKE pattern")) := by
  refine (Retypes.of_map (operand_renamed known pattern resolves)).bind ?_
  rintro _ result rfl
  cases result with
  | value value =>
      cases value with
      | text text =>
          refine (partnerSlot_retyped binds (.text (kind.apply text)) (some column) true).bind
            fun plain typed retyped => ?_
          exact .pure (.cons .name (.cons .fixed (.cons (.slot retyped) .nil)))
      | _ => exact .failed _
  | column _ => exact .failed _
  | computed _ _ _ _ => exact .failed _

theorem likeMatch_retyped (known : context.entity = some entity)
    (binds : context.useParameters = true) (kind : TextSearch) (operand pattern : Expr)
    (operandResolves : ∀ name ∈ operand.properties, entity.Resolves name)
    (patternResolves : ∀ name ∈ pattern.properties, entity.Resolves name) :
    Retypes Condition.Retyped
      (context.untyped.likeMatch kind (operand.renamed entity.columnName)
        (pattern.renamed entity.columnName))
      (context.likeMatch kind operand pattern) := by
  refine (Retypes.of_map (operand_renamed known operand operandResolves)).bind ?_
  rintro _ result rfl
  simp only [Expr.kind_renamed]
  cases result with
  | value _ => exact .failed _
  | computed _ _ _ _ => exact .failed _
  | column column =>
      have matched := likePattern_retyped known binds kind column pattern patternResolves
      obtain ⟨name, dataType⟩ := column
      cases dataType with
      | none => exact matched
      | some dataType =>
          cases dataType with
          | string => exact matched
          | _ => exact .mismatched trivial

theorem nullTest_retyped (known : context.entity = some entity)
    (binds : context.useParameters = true) (negated : Bool) (operand : Expr)
    (resolves : ∀ name ∈ operand.properties, entity.Resolves name) :
    Retypes Condition.Retyped
      (context.untyped.nullTest negated (operand.renamed entity.columnName))
      (context.nullTest negated operand) := by
  refine (Retypes.of_map (operand_renamed known operand resolves)).bind ?_
  rintro _ result rfl
  cases result with
  | value value => exact .pure (.cons .fixed .nil)
  | column _ => exact nullTested_retyped binds _ _
  | computed _ _ _ _ => exact nullTested_retyped binds _ _

theorem listItem_retyped (known : context.entity = some entity)
    (binds : context.useParameters = true) (column : ResolvedColumn) (item : Expr)
    (resolves : ∀ name ∈ item.properties, entity.Resolves name) :
    Retypes Slot.Retyped
      (context.untyped.listItem column.untyped (item.renamed entity.columnName))
      (context.listItem column item) := by
  refine (Retypes.of_map (operand_renamed known item resolves)).bind ?_
  rintro _ result rfl
  rw [Expr.kind_renamed]
  cases result with
  | value value => exact partnerSlot_retyped binds value (some column) true
  | column _ => exact .failed _
  | computed _ _ _ _ => exact .failed _

theorem membership_retyped (known : context.entity = some entity)
    (binds : context.useParameters = true) (negated : Bool) (operand : Expr) (items : List Expr)
    (operandResolves : ∀ name ∈ operand.properties, entity.Resolves name)
    (itemsResolve : ∀ item ∈ items, ∀ name ∈ item.properties, entity.Resolves name) :
    Retypes Condition.Retyped
      (context.untyped.membership negated (operand.renamed entity.columnName)
        (items.map (Expr.renamed entity.columnName)))
      (context.membership negated operand items) := by
  refine (Retypes.of_map (operand_renamed known operand operandResolves)).bind ?_
  rintro _ result rfl
  rw [Expr.kind_renamed, List.isEmpty_map]
  cases result with
  | value _ => exact .failed _
  | computed _ _ _ _ => exact .failed _
  | column column =>
      by_cases empty : items.isEmpty = true
      · simp only [empty]
        exact .pure (.cons .fixed .nil)
      · simp only [empty]
        have slots := Retypes.mapM fun item member =>
          listItem_retyped known binds column item (itemsResolve item member)
        refine slots.bind fun plain typed retyped => ?_
        exact .pure (.cons .name (.cons .fixed (Fragment.Retyped.slots retyped).parenthesized))

private theorem propertyTrue_retyped (binds : context.useParameters = true)
    (column : ResolvedColumn) :
    Retypes Condition.Retyped
      (do
        let slot ← context.untyped.partnerSlot (.bool true) (some column.untyped) true
        return Condition.comparison .eq (.column column.name) (.slot slot))
      (do
        let slot ← context.partnerSlot (.bool true) (some column) true
        return Condition.comparison .eq (.column column.name) (.slot slot)) := by
  refine (partnerSlot_retyped binds (.bool true) (some column) true).bind
    fun plain typed retyped => ?_
  exact .pure (.cons .name (.cons .fixed (.cons (.slot retyped) .nil)))

theorem propertyTruth_retyped (known : context.entity = some entity)
    (binds : context.useParameters = true) (name : String) (resolves : entity.Resolves name) :
    Retypes Condition.Retyped
      (context.untyped.propertyTruth (entity.columnName name)) (context.propertyTruth name) := by
  refine (Retypes.of_map (column_renamed known resolves)).bind ?_
  rintro _ column rfl
  have compared := propertyTrue_retyped binds column
  obtain ⟨name, dataType⟩ := column
  cases dataType with
  | none => exact compared
  | some dataType =>
      cases dataType with
      | boolean => exact compared
      | _ => exact .mismatched trivial

theorem captureTruth_renamed (member : Expr) :
    context.untyped.captureTruth (member.renamed rename) = context.captureTruth member := by
  rw [captureTruth, captureTruth, captureValue_renamed]
  cases result : context.captureValue member with
  | error error => rfl
  | ok value => rw [captureValue_renamed_self result]

theorem captureTruth_retyped (rename : String → String) (member : Expr) :
    Retypes Condition.Retyped
      (context.untyped.captureTruth (member.renamed rename)) (context.captureTruth member) := by
  rw [captureTruth_renamed, captureTruth]
  cases context.captureValue member with
  | error error => exact .failed error
  | ok value =>
      cases value with
      | bool holds => exact .pure (.cons .fixed .nil)
      | _ => exact .failed _

/-- A predicate with an entity becomes the same condition as the renamed predicate without, up to
the values and types of slots, and fails besides only where a type is declared. -/
theorem condition_retyped (known : context.entity = some entity)
    (binds : context.useParameters = true) : (expr : Expr) →
    (∀ name ∈ expr.properties, entity.Resolves name) →
    Retypes Condition.Retyped
      (context.untyped.condition (expr.renamed entity.columnName)) (context.condition expr)
  | .and left right, resolves | .or left right, resolves => by
      obtain ⟨leftResolves, rightResolves⟩ := List.forall_mem_append.mp resolves
      refine (condition_retyped known binds left leftResolves).bind
        fun plainLeft typedLeft leftRetyped =>
          (condition_retyped known binds right rightResolves).bind
            fun plainRight typedRight rightRetyped => ?_
      exact .pure (leftRetyped.parenthesized.separated _ rightRetyped.parenthesized)
  | .not operand, resolves => by
      refine (condition_retyped known binds operand resolves).bind fun plain typed retyped => ?_
      exact .pure (.cons .fixed retyped.parenthesized)
  | .compare op left right, resolves => by
      obtain ⟨leftResolves, rightResolves⟩ := List.forall_mem_append.mp resolves
      exact comparison_retyped known binds op left right leftResolves rightResolves
  | .like kind operand pattern, resolves => by
      obtain ⟨operandResolves, patternResolves⟩ := List.forall_mem_append.mp resolves
      exact likeMatch_retyped known binds kind operand pattern operandResolves patternResolves
  | .isNull negated operand, resolves => nullTest_retyped known binds negated operand resolves
  | .inList negated operand items, resolves => by
      obtain ⟨operandResolves, itemsResolve⟩ := List.forall_mem_append.mp resolves
      rw [Expr.itemProperties_eq] at itemsResolve
      rw [Expr.renamed, Expr.renamedItems_eq]
      refine membership_retyped known binds negated operand items operandResolves ?_
      exact fun item member name named =>
        itemsResolve name (List.mem_flatMap.mpr ⟨item, member, named⟩)
  | .literal value, _ => by
      cases value with
      | bool holds => exact .pure (.cons .fixed .nil)
      | _ => exact .failed _
  | .property name, resolves =>
      propertyTruth_retyped known binds name (resolves name (List.mem_singleton_self name))
  | .captured name, _ => captureTruth_retyped entity.columnName (.captured name)
  | .field base name, _ => captureTruth_retyped entity.columnName (.field base name)
  | .arithmetic _ _ _, _ => .failed _

end Context

/-!
## Texts and parameters
-/

namespace Fragment

variable {plain typed : Fragment} {settings : Settings}

/-- Markers are named after bases and positions and show neither values nor types. -/
theorem Retyped.text (retyped : plain.Retyped typed) (binds : settings.useParameters = true)
    (bound : Nat) : plain.text settings bound = typed.text settings bound := by
  induction retyped generalizing bound with
  | nil => rfl
  | cons first _ ih =>
      cases first with
      | fixed | name => simp only [Fragment.text, ih]
      | slot retyped => simp only [Fragment.text, if_pos binds, retyped.base, ih]

theorem Retyped.slots_retyped (retyped : plain.Retyped typed) :
    List.Forall₂ Slot.Retyped plain.slots typed.slots := by
  induction retyped with
  | nil => exact .nil
  | cons first _ ih =>
      cases first with
      | fixed | name => exact ih
      | slot retyped => exact .cons retyped ih

end Fragment

/-- A parameter of the same name whose value is the plain one coerced to the parameter's type. -/
structure Parameter.Retyped (plain typed : Parameter) : Prop where
  name : plain.name = typed.name
  value : ∀ name, plain.value.coerce typed.dataType name = .ok typed.value

theorem Slot.parametersFrom_retyped {plain typed : List Slot}
    (retyped : List.Forall₂ Slot.Retyped plain typed) (position : Nat) :
    List.Forall₂ Parameter.Retyped (parametersFrom position plain)
      (parametersFrom position typed) := by
  induction retyped generalizing position with
  | nil => exact .nil
  | cons first _ ih =>
      refine .cons ⟨?_, first.value⟩ (ih (position + 1))
      rw [Slot.parameter, Slot.parameter, first.base]

/-!
## Clauses with and without an entity
-/

namespace Clause

variable {settings : Settings} {scope : Option Scope} {entity : Entity} {expr : Expr}
  {before : Parameters}

private theorem render_predicate_error {error : RenderError} {other : Option Entity}
    (failed : (predicate expr).render settings scope other before = .error error) :
    (settings.context scope other).condition expr = .error error := by
  rw [render_predicate_eq] at failed
  cases result : (settings.context scope other).condition expr with
  | error found =>
      rw [result] at failed
      cases failed
      rfl
  | ok condition =>
      rw [result] at failed
      cases failed

private theorem orderBy_ok_iff {keys : SortOrder} {other : Option Entity} :
    (∃ result, (orderBy keys).render settings scope other before = .ok result) ↔
      ∃ fragment, (settings.context scope other).orderFragment keys = .ok fragment := by
  constructor
  · intro rendered
    obtain ⟨result, rendered⟩ := rendered
    obtain ⟨fragment, written, _⟩ := Result.bind_eq_ok_iff.mp rendered
    exact ⟨fragment, written⟩
  · intro written
    obtain ⟨fragment, written⟩ := written
    exact ⟨_, Result.bind_eq_ok_iff.mpr ⟨fragment, written, rfl⟩⟩

/-- An entity only renames and retypes. A predicate that is rendered with an entity is rendered
alike without it, once its properties are renamed to the columns that they resolve to: the text and
the names of the parameters are the same, and the values with the entity are those without it
coerced. If the renamed predicate can be rendered, the predicate can only fail for a type. Sort keys
are rendered with an entity exactly if they resolve, and then as the columns that they resolve
to. -/
theorem render_renamed (binds : settings.useParameters = true) (keys : SortOrder) :
    (∀ {text after},
      (predicate expr).render settings scope (some entity) before = .ok (text, after) →
      (∀ name ∈ expr.properties, entity.Resolves name) ∧
      ∃ plainAfter plainAdded added,
        (predicate (expr.renamed entity.columnName)).render settings scope none before =
          .ok (text, plainAfter) ∧
        plainAfter.toList = before.toList ++ plainAdded ∧
        after.toList = before.toList ++ added ∧
        List.Forall₂ Parameter.Retyped plainAdded added) ∧
    ((∀ name ∈ expr.properties, entity.Resolves name) → ∀ {plain error},
      (predicate (expr.renamed entity.columnName)).render settings scope none before = .ok plain →
      (predicate expr).render settings scope (some entity) before = .error error →
      error.IsMismatch) ∧
    ((∃ result, (orderBy keys).render settings scope (some entity) before = .ok result) ↔
      ∀ key ∈ keys, entity.Resolves key.column) ∧
    ∀ {result}, (orderBy keys).render settings scope (some entity) before = .ok result →
      (orderBy (keys.renamed entity.columnName)).render settings scope none before =
        .ok result := by
  have known : (settings.context scope (some entity)).entity = some entity := rfl
  refine ⟨?_, ?_, ?_, ?_⟩
  · intro text after rendered
    obtain ⟨condition, lowered, written, bound⟩ := render_predicate_eq_ok_iff.mp rendered
    have resolves := lowered.resolves known
    obtain ⟨plain, plainOk, retyped⟩ :=
      (Context.condition_retyped known binds expr resolves).succeeds lowered.complete
    have same := retyped.text binds before.size
    have plainSplit := Fragment.bind_toList settings before plain.fragment
    have split := Fragment.bind_toList settings before condition.fragment
    rw [if_pos binds] at plainSplit split
    refine ⟨resolves, _, _, _, ?_, plainSplit, bound ▸ split,
      Slot.parametersFrom_retyped retyped.slots_retyped before.size⟩
    exact render_predicate_eq_ok_iff.mpr ⟨plain, .sound plainOk, same.trans written, rfl⟩
  · intro resolves plain error plainRendered failed
    obtain ⟨condition, lowered, _⟩ := render_predicate_eq_ok_iff.mp plainRendered
    refine (Context.condition_retyped known binds expr resolves).mismatch lowered.complete ?_
    exact render_predicate_error failed
  · exact orderBy_ok_iff.trans (Context.orderFragment_ok_iff known)
  · intro result rendered
    have resolves := (Context.orderFragment_ok_iff known).mp (orderBy_ok_iff.mp ⟨result, rendered⟩)
    have plain := Context.orderFragment_renamed known resolves
    rw [← rendered]
    change ((settings.context scope (some entity)).untyped.orderFragment _ >>= fun fragment =>
      pure _) = _
    rw [plain]
    rfl

/-- Visits, whose columns are called otherwise than their properties. -/
def sampleVisits : Entity where
  name := "Visit"
  table := "visits"
  columns :=
    [{ property := "age", column := "Age", dataType := .int64 },
      { property := "at", column := "SeenAt", dataType := .dateTime }]

/-- A predicate whose values are narrower than the columns that they meet. -/
def sampleSeen : Expr :=
  .and
    (.compare .gt (.arithmetic .add (.property "age") (.literal (.int32 1))) (.captured "limit"))
    (.compare .ge (.property "at") (.literal (.date ⟨2024, 1, 5, by decide, by decide⟩)))

theorem render_renamed_sampleSeen :
    ∃ text after plainAfter,
      (predicate sampleSeen).render .standard (some (Scope.empty.bind "limit" (.int32 30)))
          (some sampleVisits) .empty = .ok (text, after) ∧
      text = "(([Age] + @Age_0) > @Age_1) AND ([SeenAt] >= @SeenAt_2)" ∧
      after.toList.map Parameter.dataType = [.int32, .int64, .dateTime] ∧
      (predicate (sampleSeen.renamed sampleVisits.columnName)).render .standard
          (some (Scope.empty.bind "limit" (.int32 30))) none .empty = .ok (text, plainAfter) ∧
      List.Forall₂ Parameter.Retyped plainAfter.toList after.toList := by
  obtain ⟨text, after, rendered, spelled, types⟩ : ∃ text after,
      (predicate sampleSeen).render .standard (some (Scope.empty.bind "limit" (.int32 30)))
          (some sampleVisits) .empty = .ok (text, after) ∧
        text = "(([Age] + @Age_0) > @Age_1) AND ([SeenAt] >= @SeenAt_2)" ∧
        after.toList.map Parameter.dataType = [.int32, .int64, .dateTime] :=
    ⟨_, _, rfl, by decide +kernel, by decide +kernel⟩
  have binds : Settings.standard.useParameters = true := rfl
  obtain ⟨renames, _⟩ := render_renamed binds []
  obtain ⟨_, plainAfter, plainAdded, added, plainRendered, plainSplit, split, retyped⟩ :=
    renames rendered
  have nothing : Parameters.empty.toList = [] := rfl
  rw [nothing, List.nil_append] at plainSplit split
  exact ⟨text, after, plainAfter, rendered, spelled, types, plainRendered,
    plainSplit ▸ split ▸ retyped⟩

end Clause

end QueryText
