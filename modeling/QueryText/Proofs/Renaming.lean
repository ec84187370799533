import QueryText.Proofs.Inline

/-!
# Renaming by an entity

An entity resolves the properties of an expression to columns. Without the entity, the expression
whose properties have been renamed to those columns is classified as before, only that no types are
known. Whatever can be lowered or sorted by with an entity resolves.
-/

set_option autoImplicit false

namespace QueryText

/-!
## Renamed expressions
-/

namespace Expr

mutual

/-- The properties that an expression names. -/
def properties : Expr → List String
  | .literal _ | .captured _ => []
  | .property name => [name]
  | .field base _ => base.properties
  | .compare _ left right | .and left right | .or left right | .like _ left right
  | .arithmetic _ left right => left.properties ++ right.properties
  | .not operand | .isNull _ operand => operand.properties
  | .inList _ operand items => operand.properties ++ itemProperties items

def itemProperties : List Expr → List String
  | [] => []
  | item :: items => item.properties ++ itemProperties items

end

mutual

/-- The expression with other names for its properties. -/
def renamed (rename : String → String) : Expr → Expr
  | .literal value => .literal value
  | .property name => .property (rename name)
  | .captured name => .captured name
  | .field base name => .field (base.renamed rename) name
  | .compare op left right => .compare op (left.renamed rename) (right.renamed rename)
  | .and left right => .and (left.renamed rename) (right.renamed rename)
  | .or left right => .or (left.renamed rename) (right.renamed rename)
  | .not operand => .not (operand.renamed rename)
  | .like kind operand pattern => .like kind (operand.renamed rename) (pattern.renamed rename)
  | .isNull negated operand => .isNull negated (operand.renamed rename)
  | .inList negated operand items =>
    .inList negated (operand.renamed rename) (renamedItems rename items)
  | .arithmetic op left right => .arithmetic op (left.renamed rename) (right.renamed rename)

def renamedItems (rename : String → String) : List Expr → List Expr
  | [] => []
  | item :: items => item.renamed rename :: renamedItems rename items

end

variable {rename : String → String}

theorem renamedItems_eq (items : List Expr) :
    renamedItems rename items = items.map (renamed rename) := by
  induction items with
  | nil => rfl
  | cons item items ih => rw [renamedItems, ih, List.map_cons]

theorem itemProperties_eq (items : List Expr) :
    itemProperties items = items.flatMap properties := by
  induction items with
  | nil => rfl
  | cons item items ih => rw [itemProperties, ih, List.flatMap_cons]

theorem kind_renamed (expr : Expr) : (expr.renamed rename).kind = expr.kind := by
  cases expr <;> rfl

end Expr

/-- The column name that a name resolves to; a name that does not resolve stays. -/
def Entity.columnName (entity : Entity) (name : String) : String :=
  ((entity.resolve? name).map Column.column).getD name

def Entity.Resolves (entity : Entity) (name : String) : Prop :=
  ∃ column, entity.resolve name = .ok column

theorem Entity.columnName_eq {entity : Entity} {name : String} {column : Column}
    (found : entity.resolve name = .ok column) : entity.columnName name = column.column := by
  rw [resolve] at found
  split at found
  · next resolved =>
    cases found
    rw [columnName, resolved]
    rfl
  · cases found

def ResolvedColumn.untyped (column : ResolvedColumn) : ResolvedColumn :=
  ⟨column.name, none⟩

def Operand.untyped : Operand → Operand
  | .value folded => .value folded
  | .column reference => .column reference.untyped
  | .computed op left right reference =>
    .computed op left.untyped right.untyped reference.untyped

theorem Operand.untyped_eq_value {operand : Operand} {folded : Value} :
    operand.untyped = .value folded ↔ operand = .value folded := by
  cases operand <;> simp [untyped]

theorem Operand.column?_untyped (operand : Operand) :
    operand.untyped.column? = operand.column?.map ResolvedColumn.untyped := by
  cases operand <;> rfl

namespace Context

/-- The same surroundings without the entity. -/
def untyped (context : Context) : Context :=
  { context with entity := none }

variable {context : Context} {entity : Entity} {rename : String → String}

/-- What can be captured names no properties. -/
theorem captured_renamed_self {member : Expr} {found : Capture}
    (captured : context.captured member = .ok found) : member.renamed rename = member := by
  fun_induction Context.captured context member generalizing found with
  | case1 name scope known => rfl
  | case2 name unknown => rfl
  | case3 base name ih =>
      obtain ⟨object, objectOk, _⟩ := Result.bind_eq_ok_iff.mp captured
      rw [Expr.renamed, ih objectOk]
  | case4 name => cases captured
  | case5 => cases captured

theorem captured_renamed (member : Expr) :
    context.untyped.captured (member.renamed rename) = context.captured member := by
  fun_induction Context.captured context member with
  | case1 name scope known => simp [Expr.renamed, captured, untyped, known]
  | case2 name unknown => simp [Expr.renamed, captured, untyped, unknown]
  | case3 base name ih =>
      rw [Expr.renamed, captured, ih]
      cases result : context.captured base with
      | error error => rfl
      | ok found => rw [captured_renamed_self result]
  | case4 name => rfl
  | case5 other noCapture noField noProperty =>
      cases other with
      | captured name => exact absurd rfl (noCapture name)
      | field base name => exact absurd rfl (noField base name)
      | property name => exact absurd rfl (noProperty name)
      | _ => rfl

theorem captureValue_renamed_self {member : Expr} {value : Value}
    (found : context.captureValue member = .ok value) : member.renamed rename = member := by
  obtain ⟨capture, captured, _⟩ := Result.bind_eq_ok_iff.mp found
  exact captured_renamed_self captured

theorem captureValue_renamed (context : Context) (rename : String → String) (member : Expr) :
    context.untyped.captureValue (member.renamed rename) = context.captureValue member := by
  rw [captureValue, captureValue, captured_renamed]
  cases result : context.captured member with
  | error error => rfl
  | ok found => rw [captured_renamed_self result]

/-- A property resolves to the column that it is renamed to. -/
theorem column_renamed {name : String} (known : context.entity = some entity)
    (resolves : entity.Resolves name) :
    (context.untyped.column (entity.columnName name)) =
      (context.column name).map ResolvedColumn.untyped := by
  obtain ⟨target, found⟩ := resolves
  have named := Entity.columnName_eq found
  simp only [Context.column, known, found, named]
  rfl

/-- Without types a renamed operand is what the operand is with them. -/
theorem operand_renamed (known : context.entity = some entity) : (expr : Expr) →
    (∀ name ∈ expr.properties, entity.Resolves name) →
    context.untyped.operand (expr.renamed entity.columnName) =
      (context.operand expr).map Operand.untyped
  | .literal value, _ => rfl
  | .property name, resolves => by
      have column := column_renamed known (resolves name (List.mem_singleton_self name))
      rw [Expr.renamed, operand, operand, column]
      cases context.column name <;> rfl
  | .captured name, _ => by
      have value := captureValue_renamed context entity.columnName (.captured name)
      rw [Expr.renamed] at value ⊢
      rw [operand, operand, value]
      cases context.captureValue (.captured name) <;> rfl
  | .field base name, _ => by
      have value := captureValue_renamed context entity.columnName (.field base name)
      rw [Expr.renamed] at value ⊢
      rw [operand, operand, value]
      cases context.captureValue (.field base name) <;> rfl
  | .arithmetic op left right, resolves => by
      obtain ⟨leftResolves, rightResolves⟩ := List.forall_mem_append.mp resolves
      rw [Expr.renamed, operand, operand, operand_renamed known left leftResolves,
        operand_renamed known right rightResolves]
      cases context.operand left with
      | error error => rfl
      | ok leftOperand =>
          cases context.operand right with
          | error error => rfl
          | ok rightOperand =>
              cases leftOperand with
              | value leftValue =>
                  cases rightOperand with
                  | value rightValue =>
                      change (Value.arithmetic op leftValue rightValue >>= fun value =>
                          pure (.value value)) =
                        (Value.arithmetic op leftValue rightValue >>= fun value =>
                          pure (.value value)).map Operand.untyped
                      cases Value.arithmetic op leftValue rightValue <;> rfl
                  | column _ => rfl
                  | computed _ _ _ _ => rfl
              | column _ => cases rightOperand <;> rfl
              | computed _ _ _ _ => cases rightOperand <;> rfl
  | .compare .., _ | .and .., _ | .or .., _ | .not _, _ | .like .., _ | .isNull .., _
  | .inList .., _ => rfl

/-!
## Resolved properties
-/

/-- What can be captured names no properties. -/
theorem captured_properties {member : Expr} {found : Capture}
    (captured : context.captured member = .ok found) : member.properties = [] := by
  fun_induction Context.captured context member generalizing found with
  | case1 | case2 => rfl
  | case3 base name ih =>
      obtain ⟨object, objectOk, _⟩ := Result.bind_eq_ok_iff.mp captured
      exact ih objectOk
  | case4 | case5 => cases captured

theorem captureValue_properties {member : Expr} {value : Value}
    (found : context.captureValue member = .ok value) : member.properties = [] := by
  obtain ⟨capture, captured, _⟩ := Result.bind_eq_ok_iff.mp found
  exact captured_properties captured

theorem column_known {name : String} {column : ResolvedColumn}
    (known : context.entity = some entity) (found : context.column name = .ok column) :
    ∃ target, entity.resolve name = .ok target ∧
      column = ⟨target.column, some target.dataType⟩ := by
  rw [Context.column, known] at found
  obtain ⟨target, resolved, same⟩ := Result.bind_eq_ok_iff.mp found
  exact ⟨target, resolved, (Result.pure_eq_ok_iff.mp same).symm⟩

theorem column_resolves {name : String} {column : ResolvedColumn}
    (known : context.entity = some entity) (found : context.column name = .ok column) :
    entity.Resolves name := by
  obtain ⟨target, resolved, _⟩ := column_known known found
  exact ⟨target, resolved⟩

theorem Classifies.resolves (known : context.entity = some entity) {expr : Expr}
    {operand : Operand} (classified : context.Classifies expr operand) :
    ∀ name ∈ expr.properties, entity.Resolves name := by
  induction classified with
  | literal => exact List.forall_mem_nil _
  | property found => exact List.forall_mem_singleton.mpr (column_resolves known found)
  | captured => exact List.forall_mem_nil _
  | field found =>
      rw [captureValue_properties found]
      exact List.forall_mem_nil _
  | folded _ _ _ leftIH rightIH | computed _ _ _ leftIH rightIH =>
      exact List.forall_mem_append.mpr ⟨leftIH, rightIH⟩

/-- All properties of a predicate that becomes a condition resolve. -/
theorem Lowers.resolves (known : context.entity = some entity) {expr : Expr}
    {condition : Condition} (lowered : context.Lowers expr condition) :
    ∀ name ∈ expr.properties, entity.Resolves name := by
  induction lowered with
  | and _ _ leftIH rightIH | or _ _ leftIH rightIH =>
      exact List.forall_mem_append.mpr ⟨leftIH, rightIH⟩
  | not _ ih => exact ih
  | truth | captured => exact List.forall_mem_nil _
  | property found => exact List.forall_mem_singleton.mpr (column_resolves known found)
  | field found =>
      rw [captureValue_properties found]
      exact List.forall_mem_nil _
  | decided left right | nullLeft left right | nullRight left right | compared left right =>
      exact List.forall_mem_append.mpr ⟨left.resolves known, right.resolves known⟩
  | like operand _ pattern =>
      exact List.forall_mem_append.mpr ⟨operand.resolves known, pattern.resolves known⟩
  | valueTest operand | nullTest operand => exact operand.resolves known
  | emptyList operand =>
      exact List.forall_mem_append.mpr ⟨operand.resolves known, List.forall_mem_nil _⟩
  | list operand _ items =>
      refine List.forall_mem_append.mpr ⟨operand.resolves known, ?_⟩
      rw [Expr.itemProperties_eq]
      intro name member
      obtain ⟨item, itemMember, named⟩ := List.mem_flatMap.mp member
      obtain ⟨slot, _, value, classified, _⟩ := Result.exists_of_mem_left items itemMember
      exact classified.resolves known name named

end Context

/-!
## Sort keys
-/

def SortOrder.renamed (rename : String → String) (keys : SortOrder) : SortOrder :=
  keys.map fun key => { key with column := rename key.column }

namespace Context

variable {context : Context} {entity : Entity}

private theorem sortFragment_renamed (rename : String → String) (keys : SortOrder)
    (columns : List String) :
    sortFragment (keys.renamed rename) columns = sortFragment keys columns := by
  rw [sortFragment, sortFragment, SortOrder.renamed, List.isEmpty_map, List.zipWith_map_left]
  rfl

theorem orderColumn_resolved (known : context.entity = some entity) {key : SortKey}
    (resolves : entity.Resolves key.column) :
    context.orderColumn key = .ok (entity.columnName key.column) := by
  obtain ⟨column, found⟩ := resolves
  rw [orderColumn, Context.column, known, Entity.columnName_eq found]
  simp only [found]
  rfl

theorem orderColumn_resolves (known : context.entity = some entity) {key : SortKey}
    {name : String} (named : context.orderColumn key = .ok name) : entity.Resolves key.column := by
  obtain ⟨column, found, _⟩ := Result.bind_eq_ok_iff.mp named
  exact column_resolves known found

private theorem orderFragment_eq {keys : SortOrder} {nameOf : SortKey → String}
    (each : ∀ key ∈ keys, context.orderColumn key = .ok (nameOf key)) :
    context.orderFragment keys = .ok (sortFragment keys (keys.map nameOf)) := by
  have names : keys.mapM context.orderColumn = .ok (keys.map nameOf) :=
    Result.mapM_eq_ok_iff.mpr (List.forall₂_map_right_iff.mpr (List.forall₂_same.mpr each))
  rw [orderFragment, names]
  rfl

/-- Sort keys that resolve are rendered as the columns that they resolve to. -/
theorem orderFragment_renamed (known : context.entity = some entity) {keys : SortOrder}
    (resolves : ∀ key ∈ keys, entity.Resolves key.column) :
    context.untyped.orderFragment (keys.renamed entity.columnName) =
      context.orderFragment keys := by
  have plain : context.untyped.orderFragment (keys.renamed entity.columnName) =
      .ok (sortFragment (keys.renamed entity.columnName)
        ((keys.renamed entity.columnName).map SortKey.column)) :=
    orderFragment_eq fun _ _ => rfl
  have columns : (keys.renamed entity.columnName).map SortKey.column =
      keys.map fun key => entity.columnName key.column := List.map_map
  rw [plain, sortFragment_renamed, columns]
  exact (orderFragment_eq fun key member => orderColumn_resolved known (resolves key member)).symm

theorem orderFragment_ok_iff (known : context.entity = some entity) {keys : SortOrder} :
    (∃ fragment, context.orderFragment keys = .ok fragment) ↔
      ∀ key ∈ keys, entity.Resolves key.column := by
  constructor
  · intro written key member
    obtain ⟨fragment, written⟩ := written
    obtain ⟨names, named, _⟩ := Result.bind_eq_ok_iff.mp written
    obtain ⟨name, _, found⟩ := Result.exists_of_mem_left (Result.mapM_eq_ok_iff.mp named) member
    exact orderColumn_resolves known found
  · intro resolves
    exact ⟨_, orderFragment_eq fun key member => orderColumn_resolved known (resolves key member)⟩

end Context

end QueryText
