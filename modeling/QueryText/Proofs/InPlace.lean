import QueryText.Proofs.Pass

/-!
# Clauses in place

Every clause as one pass that binds while it writes. A comparison may have bound its left operand
before its right one turns out not to fit, so a predicate takes back what it has bound when it
fails. SET resolves all assignments before it binds the first, and a value that is bound cannot fail
any more. What the passes write is what the clauses render to.
-/

set_option autoImplicit false

namespace QueryText

/-- What a clause is written with. -/
structure Writer where
  settings : Settings
  scope : Option Scope
  entity : Option Entity

namespace Writer

def context (writer : Writer) : Context :=
  writer.settings.context writer.scope writer.entity

def quoted (writer : Writer) (name : String) : String :=
  writer.settings.dialect.quotedName name

/-- Bind a value, or write it as a literal. -/
def place (writer : Writer) (slot : Slot) : Pass String :=
  if writer.settings.useParameters then fun before =>
    (.ok (writer.settings.dialect.marker (before.freshName slot.base)),
      before.bind slot.base slot.value slot.dataType)
  else .of (writer.settings.dialect.literal slot.value)

/-!
## Predicates
-/

def partnerValue (writer : Writer) (value : Value) (partner : Option ResolvedColumn)
    (coerced : Bool) : Pass String :=
  match partner with
  | some ⟨name, some dataType⟩ =>
    if coerced then do
      let value ← Pass.of (value.coerce dataType name)
      writer.place ⟨name, value, dataType⟩
    else writer.place ⟨name, value, value.dataType⟩
  | some ⟨name, none⟩ => writer.place ⟨name, value, value.dataType⟩
  | none => writer.place ⟨"p", value, value.dataType⟩

def term (writer : Writer) : Operand → Option ResolvedColumn → Bool → Pass String
  | .value value, partner, coerced => writer.partnerValue value partner coerced
  | .column column, _, _ => return writer.quoted column.name
  | .computed op left right column, _, _ => do
    let leftText ← writer.term left (some column) false
    let rightText ← writer.term right (some column) false
    return parenthesizedText (leftText ++ (" " ++ op.symbol ++ " ") ++ rightText)

def truthText (holds : Bool) : String :=
  if holds then "1=1" else "1=0"

def nullTested (writer : Writer) (negated : Bool) (operand : Operand) : Pass String := do
  let text ← writer.term operand none false
  return text ++ if negated then " IS NOT NULL" else " IS NULL"

def comparison (writer : Writer) (op : Relation) (left right : Expr) : Pass String := do
  let leftOperand ← Pass.of (writer.context.operand left)
  let rightOperand ← Pass.of (writer.context.operand right)
  match leftOperand, rightOperand with
  | .value leftValue, .value rightValue =>
    let holds ← Pass.of (Value.compared op leftValue rightValue)
    return truthText holds
  | .value .null, other | other, .value .null => writer.nullTested (op == .ne) other
  | _, _ =>
    let leftText ← writer.term leftOperand rightOperand.column? true
    let rightText ← writer.term rightOperand leftOperand.column? true
    return leftText ++ (" " ++ op.symbol ++ " ") ++ rightText

def likePattern (writer : Writer) (column : ResolvedColumn) (kind : TextSearch) (pattern : Expr) :
    Pass String := do
  match ← Pass.of (writer.context.operand pattern) with
  | .value (.text text) =>
    let pattern ← writer.partnerValue (.text (kind.apply text)) (some column) true
    return writer.quoted column.name ++ (" LIKE " ++ pattern)
  | .value other => .of (.error (.wrongType column.name .string other.dataType))
  | _ => .of (.error (.unsupported pattern.kind "LIKE pattern"))

def likeMatch (writer : Writer) (kind : TextSearch) (operand pattern : Expr) : Pass String := do
  match ← Pass.of (writer.context.operand operand) with
  | .column column =>
    match column.dataType with
    | none | some .string => writer.likePattern column kind pattern
    | some dataType => .of (.error (.wrongType column.name .string dataType))
  | _ => .of (.error (.unsupported operand.kind "LIKE operand"))

def nullTest (writer : Writer) (negated : Bool) (operand : Expr) : Pass String := do
  match ← Pass.of (writer.context.operand operand) with
  | .value value => return truthText (value.isNull != negated)
  | other => writer.nullTested negated other

def listItem (writer : Writer) (column : ResolvedColumn) (item : Expr) : Pass String := do
  match ← Pass.of (writer.context.operand item) with
  | .value value => writer.partnerValue value (some column) true
  | _ => .of (.error (.unsupported item.kind "IN list item"))

def membership (writer : Writer) (negated : Bool) (operand : Expr) (items : List Expr) :
    Pass String := do
  let .column column ← Pass.of (writer.context.operand operand)
    | .of (.error (.unsupported operand.kind "IN operand"))
  if items.isEmpty then return truthText negated
  let texts ← items.mapM (writer.listItem column)
  return writer.quoted column.name ++ ((if negated then " NOT IN " else " IN ") ++
    parenthesizedText (String.intercalate "," texts))

def propertyTruth (writer : Writer) (property : String) : Pass String := do
  let column ← Pass.of (writer.context.column property)
  match column.dataType with
  | none | some .boolean =>
    let text ← writer.partnerValue (.bool true) (some column) true
    return writer.quoted column.name ++ (" = " ++ text)
  | some dataType => .of (.error (.wrongType column.name .boolean dataType))

def captureTruth (writer : Writer) (member : Expr) : Pass String := do
  match ← Pass.of (writer.context.captureValue member) with
  | .bool holds => return truthText holds
  | other => .of (.error (.wrongType member.path .boolean other.dataType))

def predicate (writer : Writer) : Expr → Pass String
  | .and left right => do
    let leftText ← writer.predicate left
    let rightText ← writer.predicate right
    return parenthesizedText leftText ++ (" AND " ++ parenthesizedText rightText)
  | .or left right => do
    let leftText ← writer.predicate left
    let rightText ← writer.predicate right
    return parenthesizedText leftText ++ (" OR " ++ parenthesizedText rightText)
  | .not operand => do
    let text ← writer.predicate operand
    return "NOT " ++ parenthesizedText text
  | .compare op left right => writer.comparison op left right
  | .like kind operand pattern => writer.likeMatch kind operand pattern
  | .isNull negated operand => writer.nullTest negated operand
  | .inList negated operand items => writer.membership negated operand items
  | .literal (.bool holds) => return truthText holds
  | .literal _ => .of (.error (.unsupported "Literal" "predicate"))
  | .property name => writer.propertyTruth name
  | .captured name => writer.captureTruth (.captured name)
  | .field base name => writer.captureTruth (.field base name)
  | .arithmetic _ _ _ => .of (.error (.unsupported "Arithmetic" "predicate"))

variable {writer : Writer}

theorem place_writes (slot : Slot) :
    Pass.WritesText writer.settings (fun slot => [.slot slot]) (writer.place slot)
      (writer.context.slot slot.base slot.value slot.dataType) := by
  by_cases binds : writer.settings.useParameters = true
  · have placed : writer.context.slot slot.base slot.value slot.dataType = .ok slot := by
      rw [Context.slot, context, Settings.context, binds]
      rfl
    rw [placed, place, if_pos binds]
    refine .of_ok fun before => ?_
    have text : Fragment.text writer.settings before.size [.slot slot] =
        writer.settings.dialect.marker (before.freshName slot.base) := by
      simp [Settings.slotText, binds, Parameters.freshName]
    rw [text, Fragment.bind, if_pos binds]
    rfl
  · have inlines : writer.context.useParameters = false := Bool.eq_false_iff.mpr binds
    have placed : writer.context.slot slot.base slot.value slot.dataType =
        (do slot.value.checkLiteral; return slot) := by
      rw [Context.slot, inlines]
      rfl
    rw [placed, place, if_neg binds, Dialect.literal]
    cases slot.value.checkLiteral with
    | error error => exact .failed error
    | ok =>
        refine .of_ok fun before => ?_
        have text : Fragment.text writer.settings before.size [.slot slot] =
            writer.settings.dialect.literalText slot.value := by
          simp [Settings.slotText, binds]
        rw [text, Fragment.bind, if_neg binds]
        rfl

theorem partnerValue_writes (value : Value) (partner : Option ResolvedColumn) (coerced : Bool) :
    Pass.WritesText writer.settings (fun slot => [.slot slot])
      (writer.partnerValue value partner coerced)
      (writer.context.partnerSlot value partner coerced) := by
  match partner with
  | none => exact place_writes _
  | some ⟨name, none⟩ => exact place_writes _
  | some ⟨name, some dataType⟩ =>
      cases coerced with
      | false => exact place_writes _
      | true => exact .after fun value _ => place_writes ⟨name, value, dataType⟩

theorem term_writes (operand : Operand) (partner : Option ResolvedColumn) (coerced : Bool) :
    Pass.WritesText writer.settings Term.fragment (writer.term operand partner coerced)
      (writer.context.term operand partner coerced) := by
  induction operand generalizing partner coerced with
  | value value =>
      exact (partnerValue_writes value partner coerced).made (fun _ _ => rfl) fun _ => rfl
  | column column => exact .pure (fun _ => by simp [Term.fragment, quoted]) rfl
  | computed op left right column leftIH rightIH =>
      refine .pair (leftIH (some column) false) (rightIH (some column) false) ?_ ?_
      · intro leftTerm rightTerm bound
        simp [Term.fragment, String.append_assoc]
      · intro leftTerm rightTerm
        simp [Term.fragment]

theorem truth_writes (holds : Bool) :
    Pass.WritesText writer.settings Condition.fragment (pure (truthText holds))
      (.ok (.truth holds)) :=
  .pure (fun _ => by cases holds <;> rfl) rfl

theorem nullTested_writes (negated : Bool) (operand : Operand) :
    Pass.WritesText writer.settings Condition.fragment (writer.nullTested negated operand)
      (do let term ← writer.context.term operand none false; return .nullTest negated term) := by
  refine .map (term_writes operand none false) ?_ ?_
  · intro term bound
    simp [Condition.fragment]
  · intro term
    simp [Condition.fragment]

theorem compared_writes (op : Relation) (left right : Operand) :
    Pass.WritesText writer.settings Condition.fragment
      (do
        let leftText ← writer.term left right.column? true
        let rightText ← writer.term right left.column? true
        return leftText ++ (" " ++ op.symbol ++ " ") ++ rightText)
      (do
        let leftTerm ← writer.context.term left right.column? true
        let rightTerm ← writer.context.term right left.column? true
        return .comparison op leftTerm rightTerm) := by
  refine .pair (term_writes left _ true) (term_writes right _ true) ?_ ?_
  · intro leftTerm rightTerm bound
    simp [Condition.fragment, String.append_assoc]
  · intro leftTerm rightTerm
    simp [Condition.fragment]

theorem comparison_writes (op : Relation) (left right : Expr) :
    Pass.WritesText writer.settings Condition.fragment (writer.comparison op left right)
      (writer.context.comparison op left right) := by
  refine .after fun leftOperand _ => .after fun rightOperand _ => ?_
  split
  case h_1 => exact .after fun holds _ => truth_writes holds
  case h_2 => simpa only using nullTested_writes (op == .ne) rightOperand
  case h_3 => simpa only using nullTested_writes (op == .ne) leftOperand
  case h_4 => simpa only using compared_writes op leftOperand rightOperand

private theorem likePattern_writes (column : ResolvedColumn) (kind : TextSearch) (pattern : Expr) :
    Pass.WritesText writer.settings Condition.fragment (writer.likePattern column kind pattern)
      (do
        match ← writer.context.operand pattern with
        | .value (.text text) =>
          let slot ← writer.context.partnerSlot (.text (kind.apply text)) (some column) true
          return .like column.name slot
        | .value other => .error (.wrongType column.name .string other.dataType)
        | _ => .error (.unsupported pattern.kind "LIKE pattern")) := by
  refine .after fun result _ => ?_
  split
  case h_1 text =>
      refine .map (partnerValue_writes _ _ true) ?_ ?_
      · intro slot bound
        simp [Condition.fragment, quoted]
      · intro slot
        simp [Condition.fragment]
  case h_2 => exact .failed _
  case h_3 => exact .failed _

theorem likeMatch_writes (kind : TextSearch) (operand pattern : Expr) :
    Pass.WritesText writer.settings Condition.fragment (writer.likeMatch kind operand pattern)
      (writer.context.likeMatch kind operand pattern) := by
  refine .after fun result _ => ?_
  cases result with
  | value _ => exact .failed _
  | computed _ _ _ _ => exact .failed _
  | column column =>
      obtain ⟨name, dataType⟩ := column
      cases dataType with
      | none => exact likePattern_writes ⟨name, none⟩ kind pattern
      | some dataType =>
          cases dataType with
          | string => exact likePattern_writes ⟨name, some .string⟩ kind pattern
          | _ => exact .failed _

theorem nullTest_writes (negated : Bool) (operand : Expr) :
    Pass.WritesText writer.settings Condition.fragment (writer.nullTest negated operand)
      (writer.context.nullTest negated operand) := by
  refine .after fun result _ => ?_
  cases result with
  | value value => exact truth_writes _
  | column _ => exact nullTested_writes _ _
  | computed _ _ _ _ => exact nullTested_writes _ _

theorem listItem_writes (column : ResolvedColumn) (item : Expr) :
    Pass.WritesText writer.settings (fun slot => [.slot slot]) (writer.listItem column item)
      (writer.context.listItem column item) := by
  refine .after fun result _ => ?_
  cases result with
  | value value => exact partnerValue_writes _ _ _
  | column _ => exact .failed _
  | computed _ _ _ _ => exact .failed _

theorem membership_writes (negated : Bool) (operand : Expr) (items : List Expr) :
    Pass.WritesText writer.settings Condition.fragment (writer.membership negated operand items)
      (writer.context.membership negated operand items) := by
  refine .after fun result _ => ?_
  cases result with
  | value _ => exact .failed _
  | computed _ _ _ _ => exact .failed _
  | column column =>
      by_cases empty : items.isEmpty = true
      · simp only [empty]
        exact truth_writes _
      · simp only [empty]
        refine .map (.mapM (listItem_writes column)) ?_ ?_
        · intro slots bound
          simp [Condition.fragment, Fragment.text_joined, quoted]
        · intro slots
          simp [Condition.fragment, List.flatMap_map, Fragment.slots_flatMap]

private theorem propertyTrue_writes (column : ResolvedColumn) :
    Pass.WritesText writer.settings Condition.fragment
      (do
        let text ← writer.partnerValue (.bool true) (some column) true
        return writer.quoted column.name ++ (" = " ++ text))
      (do
        let slot ← writer.context.partnerSlot (.bool true) (some column) true
        return .comparison .eq (.column column.name) (.slot slot)) := by
  refine .map (partnerValue_writes _ _ true) ?_ ?_
  · intro slot bound
    have equals : " = " = " " ++ Relation.eq.symbol ++ " " := rfl
    simp [Condition.fragment, Term.fragment, quoted, equals]
  · intro slot
    simp [Condition.fragment, Term.fragment]

theorem propertyTruth_writes (property : String) :
    Pass.WritesText writer.settings Condition.fragment (writer.propertyTruth property)
      (writer.context.propertyTruth property) := by
  refine .after fun column _ => ?_
  obtain ⟨name, dataType⟩ := column
  cases dataType with
  | none => exact propertyTrue_writes ⟨name, none⟩
  | some dataType =>
      cases dataType with
      | boolean => exact propertyTrue_writes ⟨name, some .boolean⟩
      | _ => exact .failed _

theorem captureTruth_writes (member : Expr) :
    Pass.WritesText writer.settings Condition.fragment (writer.captureTruth member)
      (writer.context.captureTruth member) := by
  refine .after fun value _ => ?_
  cases value with
  | bool holds => exact truth_writes holds
  | _ => exact .failed _

theorem predicate_writes : (expr : Expr) →
    Pass.WritesText writer.settings Condition.fragment (writer.predicate expr)
      (writer.context.condition expr)
  | .and left right | .or left right => by
      refine .pair (predicate_writes left) (predicate_writes right) ?_ ?_
      · intro leftCondition rightCondition bound
        simp [Condition.fragment]
      · intro leftCondition rightCondition
        simp [Condition.fragment]
  | .not operand => by
      refine .map (predicate_writes operand) ?_ ?_
      · intro condition bound
        simp [Condition.fragment]
      · intro condition
        simp [Condition.fragment]
  | .compare op left right => comparison_writes op left right
  | .like kind operand pattern => likeMatch_writes kind operand pattern
  | .isNull negated operand => nullTest_writes negated operand
  | .inList negated operand items => membership_writes negated operand items
  | .literal value => by
      cases value with
      | bool holds => exact truth_writes holds
      | _ => exact .failed _
  | .property name => propertyTruth_writes name
  | .captured name => captureTruth_writes (.captured name)
  | .field base name => captureTruth_writes (.field base name)
  | .arithmetic _ _ _ => .failed _

/-!
## Assignments
-/

def insertedValue (writer : Writer) (assignment : Assignment) : Pass String :=
  match assignment.op with
  | .assign => writer.place ⟨assignment.key, assignment.value, assignment.dataType⟩
  | .now => return writer.settings.dialect.now
  | .add | .subtract => return "0"

def values (writer : Writer) (assignments : List Assignment) : Pass String := do
  if assignments.isEmpty then
    .of (.error (.validation "VALUES clause requires at least one column"))
  let texts ← assignments.mapM writer.insertedValue
  let columns := assignments.map fun assignment => writer.quoted assignment.key
  return parenthesizedText (String.intercalate "," columns) ++
    (" VALUES " ++ parenthesizedText (String.intercalate "," texts))

def assignedValue (writer : Writer) (assignment : Assignment) : Pass String := do
  let slot := ⟨assignment.key, assignment.value, assignment.dataType⟩
  match assignment.op with
  | .assign => writer.place slot
  | .now => return writer.settings.dialect.now
  | .add =>
    let text ← writer.place slot
    return writer.quoted assignment.key ++ ("+" ++ text)
  | .subtract =>
    let text ← writer.place slot
    return writer.quoted assignment.key ++ ("-" ++ text)

def assignmentText (writer : Writer) (assignment : Assignment) : Pass String := do
  let text ← writer.assignedValue assignment
  return writer.quoted assignment.key ++ ("=" ++ text)

def set (writer : Writer) (assignments : List Assignment) : Pass String := do
  if assignments.isEmpty then
    .of (.error (.validation "SET clause requires at least one column"))
  let resolved ← Pass.of (assignments.mapM writer.context.resolvedAssignment)
  let texts ← resolved.mapM writer.assignmentText
  return "SET " ++ String.intercalate "," texts

theorem insertedValue_writes (assignment : Assignment) :
    Pass.WritesText writer.settings id (writer.insertedValue assignment)
      (writer.context.insertedValue assignment) := by
  obtain ⟨key, op, value, dataType⟩ := assignment
  cases op with
  | assign => exact (place_writes ⟨key, value, dataType⟩).made (fun _ _ => rfl) fun _ => rfl
  | now => exact .pure (fun _ => by simp) rfl
  | add | subtract => exact .pure (fun _ => rfl) rfl

theorem assignedValue_writes (assignment : Assignment) :
    Pass.WritesText writer.settings id (writer.assignedValue assignment)
      (writer.context.assignedValue assignment) := by
  obtain ⟨key, op, value, dataType⟩ := assignment
  have placed : Pass.WritesText writer.settings (fun slot => [.slot slot])
      (writer.place ⟨key, value, dataType⟩) (writer.context.slot key value dataType) :=
    place_writes ⟨key, value, dataType⟩
  cases op with
  | assign => exact placed.made (fun _ _ => rfl) fun _ => rfl
  | now => exact .pure (fun _ => by simp) rfl
  | add | subtract =>
      refine placed.map ?_ fun _ => rfl
      intro slot bound
      simp [quoted]

theorem assignmentText_writes (assignment : Assignment) :
    Pass.WritesText writer.settings id (writer.assignmentText assignment)
      (writer.context.assignmentFragment assignment) := by
  refine (assignedValue_writes assignment).map ?_ fun _ => rfl
  intro fragment bound
  simp [quoted]

private theorem insertedValues_writes (assignments : List Assignment) :
    Pass.WritesText writer.settings id
      (do
        let texts ← assignments.mapM writer.insertedValue
        let columns := assignments.map fun assignment => writer.quoted assignment.key
        return parenthesizedText (String.intercalate "," columns) ++
          (" VALUES " ++ parenthesizedText (String.intercalate "," texts)))
      (do
        let values ← assignments.mapM writer.context.insertedValue
        let columns := assignments.map fun assignment => [Piece.name assignment.key]
        return Fragment.parenthesized (Fragment.joined "," columns) ++ .fixed " VALUES " ::
          Fragment.parenthesized (Fragment.joined "," values)) := by
  refine .map (.mapM insertedValue_writes) ?_ ?_
  · intro values bound
    simp only [id, Fragment.text_append, Fragment.text_parenthesized, Fragment.text_fixed,
      Fragment.text_joined, Fragment.slots_parenthesized, Fragment.slots_joined,
      Fragment.slots_names, Settings.after_nil, Fragment.texts_names, List.map_id, quoted]
  · intro values
    simp only [id, Fragment.slots_append, Fragment.slots_parenthesized, Fragment.slots_joined,
      Fragment.slots_names, Fragment.slots_fixed, Fragment.slots_flatMap, List.nil_append]

end Writer

/-!
## Clauses
-/

namespace Context

variable {context : Context}

theorem insertedValue_bound (binds : context.useParameters = true) (assignment : Assignment) :
    ∃ fragment, context.insertedValue assignment = .ok fragment := by
  obtain ⟨key, op, value, dataType⟩ := assignment
  cases op with
  | assign => exact ⟨_, by rw [insertedValue, slot_bound binds]; rfl⟩
  | now | add | subtract => exact ⟨_, rfl⟩

theorem assignmentFragment_bound (binds : context.useParameters = true) (assignment : Assignment) :
    ∃ fragment, context.assignmentFragment assignment = .ok fragment := by
  obtain ⟨key, op, value, dataType⟩ := assignment
  cases op with
  | assign | add | subtract =>
      exact ⟨_, by rw [assignmentFragment, assignedValue, slot_bound binds]; rfl⟩
  | now => exact ⟨_, rfl⟩

end Context

namespace Writer

variable {writer : Writer}

/-- With binding no value can fail, and without it none is bound. -/
theorem values_atomic (assignments : List Assignment) :
    Pass.Atomic writer.settings id (writer.values assignments)
      (writer.context.valuesFragment assignments) := by
  cases assignments with
  | nil => exact .failed _
  | cons assignment rest =>
      have writes : Pass.WritesText writer.settings id _ _ :=
        insertedValues_writes (assignment :: rest)
      by_cases binds : writer.settings.useParameters = true
      · refine writes.atomic_of_ok ?_
        have contextBinds : writer.context.useParameters = true := binds
        obtain ⟨values, valuesOk⟩ := Result.mapM_total fun item (_ : item ∈ assignment :: rest) =>
          Context.insertedValue_bound contextBinds item
        exact ⟨_, by rw [valuesOk]; rfl⟩
      · exact writes.atomic_of_inline (Bool.eq_false_iff.mpr binds)

/-- Assignments are resolved before the first of them is bound. -/
theorem set_atomic (assignments : List Assignment) :
    Pass.Atomic writer.settings id (writer.set assignments)
      (writer.context.setFragment assignments) := by
  cases assignments with
  | nil => exact .failed _
  | cons assignment rest =>
      refine .after fun resolved _ => ?_
      have writes : Pass.WritesText writer.settings id
          (do
            let texts ← resolved.mapM writer.assignmentText
            return "SET " ++ String.intercalate "," texts)
          (do
            let written ← resolved.mapM writer.context.assignmentFragment
            return .fixed "SET " :: Fragment.joined "," written) := by
        refine .map (.mapM assignmentText_writes) ?_ ?_
        · intro written bound
          simp [Fragment.text_joined]
        · intro written
          simp only [id, Fragment.slots_fixed, Fragment.slots_joined, Fragment.slots_flatMap]
      by_cases binds : writer.settings.useParameters = true
      · refine writes.atomic_of_ok ?_
        have contextBinds : writer.context.useParameters = true := binds
        obtain ⟨written, writtenOk⟩ := Result.mapM_total fun item (_ : item ∈ resolved) =>
          Context.assignmentFragment_bound contextBinds item
        exact ⟨_, by rw [writtenOk]; rfl⟩
      · exact writes.atomic_of_inline (Bool.eq_false_iff.mpr binds)

def sortText (writer : Writer) (keys : SortOrder) (columns : List String) : String :=
  let texts := List.zipWith
    (fun key column => writer.quoted column ++ if key.descending then " DESC" else " ASC")
    keys columns
  if keys.isEmpty then "" else "ORDER BY " ++ String.intercalate "," texts

def write (writer : Writer) : Clause → Pass String
  | .values assignments => writer.values assignments
  | .set assignments => writer.set assignments
  | .predicate expr => (writer.predicate expr).rolledBack
  | .filter expr => do
    let text ← (writer.predicate expr).rolledBack
    return "WHERE " ++ text
  | .orderBy keys => do
    let columns ← Pass.of (keys.mapM writer.context.orderColumn)
    return writer.sortText keys columns

private theorem texts_sortKeys (keys : SortOrder) (columns : List String) (bound : Nat) :
    Fragment.texts writer.settings bound (List.zipWith SortKey.fragment keys columns) =
      List.zipWith
        (fun key column => writer.quoted column ++ if key.descending then " DESC" else " ASC")
        keys columns := by
  rw [Fragment.texts_silent (Fragment.slots_sortKeys keys columns), List.map_zipWith]
  congr
  funext key column
  simp [SortKey.fragment, quoted]

private theorem sortFragment_writes (keys : SortOrder) (columns : List String) :
    Pass.Atomic writer.settings id (pure (writer.sortText keys columns))
      (.ok (sortFragment keys columns)) := by
  cases keys with
  | nil => exact .pure (fun _ => rfl) rfl
  | cons key rest =>
      refine .pure ?_ (Fragment.slots_sortFragment (key :: rest) columns)
      intro bound
      simp only [id, sortFragment, sortText, List.isEmpty_cons, Bool.false_eq_true, if_false,
        Fragment.text_fixed, Fragment.text_joined, texts_sortKeys]

/-- What a clause writes in place is its fragment. A clause that fails leaves the parameters as they
were. -/
theorem write_atomic (writer : Writer) (clause : Clause) :
    Pass.Atomic writer.settings id (writer.write clause)
      (writer.context.clauseFragment clause) := by
  have predicate : ∀ expr, Pass.Atomic writer.settings id (writer.predicate expr).rolledBack
      (writer.context.predicateFragment expr) := by
    intro expr
    have written : Pass.WritesText writer.settings id (writer.predicate expr)
        (writer.context.predicateFragment expr) :=
      (predicate_writes expr).made (fun _ _ => rfl) fun _ => rfl
    exact written.rolledBack
  cases clause with
  | values assignments => exact values_atomic assignments
  | set assignments => exact set_atomic assignments
  | predicate expr => exact predicate expr
  | filter expr => exact (predicate expr).map (fun _ _ => rfl) fun _ => rfl
  | orderBy keys => exact .after fun columns _ => sortFragment_writes keys columns

/-- The left side of this predicate is bound before its right side fails, and is taken back. -/
example :
    let writer : Writer := ⟨.standard, none, none⟩
    let failing : Expr :=
      .and (.compare .eq (.property "id") (.literal (.int32 1))) (.captured "missing")
    ((writer.predicate failing).run .empty).2.size = 1 ∧
      ((writer.write (.predicate failing)).run .empty).2.size = 0 :=
  ⟨rfl, rfl⟩

/-- Writing a clause in place gives the text of its rendering, or the same error, and the parameters
that the clause leaves. -/
theorem run_write (writer : Writer) (clause : Clause) (before : Parameters) :
    (writer.write clause).run before =
      ((clause.render writer.settings writer.scope writer.entity before).map Prod.fst,
        clause.bind writer.settings writer.scope writer.entity before) := by
  rw [write_atomic writer clause before, Clause.bind, Clause.render_eq, context]
  cases (writer.settings.context writer.scope writer.entity).clauseFragment clause <;> rfl

end Writer

end QueryText
