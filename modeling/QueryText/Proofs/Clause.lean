import QueryText.Proofs.Result
import QueryText.Statement.Delete
import QueryText.Statement.Insert
import QueryText.Statement.Part
import QueryText.Statement.Select
import QueryText.Statement.Update

/-!
# Results of clauses and statements

When a clause or a statement has a fragment, and which one.
-/

set_option autoImplicit false

namespace QueryText

/-!
## Slots
-/

theorem Value.checkLiteral_eq_ok_iff {value : Value} :
    value.checkLiteral = .ok () ↔ value.hasLiteral = true := by
  cases value <;> simp [checkLiteral, hasLiteral]

theorem Dialect.literal_eq_ok_iff {dialect : Dialect} {value : Value} {text : String} :
    dialect.literal value = .ok text ↔
      value.hasLiteral = true ∧ dialect.literalText value = text := by
  rw [Dialect.literal, Result.bind_eq_ok_iff]
  constructor
  · rintro ⟨_, checked, written⟩
    exact ⟨Value.checkLiteral_eq_ok_iff.mp checked, Result.pure_eq_ok_iff.mp written⟩
  · rintro ⟨writable, rfl⟩
    exact ⟨(), Value.checkLiteral_eq_ok_iff.mpr writable, rfl⟩

/-- A slot holds what it is made of; inlining admits only values with literals. -/
theorem Context.slot_eq_ok_iff {context : Context} {base : String} {value : Value}
    {dataType : DataType} {slot : Slot} :
    context.slot base value dataType = .ok slot ↔
      (context.useParameters = false → value.hasLiteral = true) ∧
        ⟨base, value, dataType⟩ = slot := by
  unfold Context.slot
  cases context.useParameters with
  | true =>
      simp only [↓reduceIte, Result.pure_eq_ok_iff, reduceCtorEq, false_implies, true_and]
  | false =>
      simp only [Bool.false_eq_true, ↓reduceIte, Result.bind_eq_ok_iff, Result.pure_eq_ok_iff,
        forall_const]
      exact ⟨fun ⟨_, checked, same⟩ => ⟨Value.checkLiteral_eq_ok_iff.mp checked, same⟩,
        fun ⟨writable, same⟩ => ⟨(), Value.checkLiteral_eq_ok_iff.mpr writable, same⟩⟩

theorem Context.slot_eq {context : Context} {base : String} {value : Value} {dataType : DataType}
    {slot : Slot} (made : context.slot base value dataType = .ok slot) :
    slot = ⟨base, value, dataType⟩ :=
  (slot_eq_ok_iff.mp made).2.symm

/-- With binding every value has a slot. -/
theorem Context.slot_bound {context : Context} (binds : context.useParameters = true)
    (base : String) (value : Value) (dataType : DataType) :
    context.slot base value dataType = .ok ⟨base, value, dataType⟩ :=
  slot_eq_ok_iff.mpr ⟨fun inlines => absurd (binds.symm.trans inlines) (by decide), rfl⟩

/-!
## Clauses
-/

namespace Context

variable {context : Context} {fragment : Fragment}

theorem valuesFragment_eq_ok_iff {assignments : List Assignment} :
    context.valuesFragment assignments = .ok fragment ↔
      assignments ≠ [] ∧ ∃ values,
        List.Forall₂ (fun assignment value => context.insertedValue assignment = .ok value)
          assignments values ∧
        Fragment.parenthesized (Fragment.joined ","
            (assignments.map fun assignment => [.name assignment.key])) ++
          .fixed " VALUES " :: Fragment.parenthesized (Fragment.joined "," values) = fragment := by
  cases assignments with
  | nil =>
      refine ⟨fun written => ?_, fun written => absurd rfl written.1⟩
      cases written
  | cons assignment rest =>
      change ((assignment :: rest).mapM context.insertedValue >>= fun values => pure _) =
        .ok fragment ↔ _
      simp only [Result.bind_eq_ok_iff, Result.mapM_eq_ok_iff, Result.pure_eq_ok_iff, ne_eq,
        reduceCtorEq, not_false_eq_true, true_and]

theorem setFragment_eq_ok_iff {assignments : List Assignment} :
    context.setFragment assignments = .ok fragment ↔
      assignments ≠ [] ∧ ∃ resolved written,
        List.Forall₂ (fun assignment column => context.resolvedAssignment assignment = .ok column)
          assignments resolved ∧
        List.Forall₂ (fun assignment part => context.assignmentFragment assignment = .ok part)
          resolved written ∧
        .fixed "SET " :: Fragment.joined "," written = fragment := by
  cases assignments with
  | nil =>
      refine ⟨fun written => ?_, fun written => absurd rfl written.1⟩
      cases written
  | cons assignment rest =>
      change ((assignment :: rest).mapM context.resolvedAssignment >>= fun resolved =>
        resolved.mapM context.assignmentFragment >>= fun written => pure _) = .ok fragment ↔ _
      simp only [Result.bind_eq_ok_iff, Result.mapM_eq_ok_iff, Result.pure_eq_ok_iff, ne_eq,
        reduceCtorEq, not_false_eq_true, true_and, exists_and_left]

theorem filterFragment_eq_ok_iff {expr : Expr} :
    context.filterFragment expr = .ok fragment ↔
      ∃ condition, context.condition expr = .ok condition ∧
        .fixed "WHERE " :: condition.fragment = fragment := by
  simp only [filterFragment, predicateFragment, Result.bind_eq_ok_iff, Result.pure_eq_ok_iff,
    exists_exists_and_eq_and]

end Context

/-!
## Statements
-/

theorem Filter.fragment?_eq_ok_iff {filter : Filter} {settings : Settings}
    {clause : Option Fragment} :
    filter.fragment? settings = .ok clause ↔
      (filter.expr = none ∧ clause = none) ∨
        ∃ expr condition, filter.expr = some expr ∧
          (filter.context settings).condition expr = .ok condition ∧
          clause = some (.fixed " " :: .fixed "WHERE " :: condition.fragment) := by
  unfold fragment?
  cases filter.expr with
  | none => simp [eq_comm]
  | some expr =>
      simp only [Result.bind_eq_ok_iff, Context.filterFragment_eq_ok_iff, Result.pure_eq_ok_iff,
        exists_exists_and_eq_and, reduceCtorEq, false_and, false_or]
      constructor
      · intro given
        obtain ⟨condition, lowered, rfl⟩ := given
        exact ⟨expr, condition, rfl, lowered, rfl⟩
      · intro given
        obtain ⟨_, condition, same, lowered, rfl⟩ := given
        cases same
        exact ⟨condition, lowered, rfl⟩

namespace Select

variable {query : Select} {fragment : Fragment}

theorem sourceFragment_eq_ok_iff :
    query.sourceFragment = .ok fragment ↔
      ∃ clause, query.filter.fragment? query.settings = .ok clause ∧
        .fixed " FROM " :: .name query.table :: clause.getD [] = fragment := by
  simp only [sourceFragment, Result.bind_eq_ok_iff, Result.pure_eq_ok_iff]

theorem orderFragment_eq_ok_iff :
    query.orderFragment = .ok fragment ↔
      ∃ columns,
        List.Forall₂ (fun key column =>
          (query.filter.context query.settings).orderColumn key = .ok column) query.order columns ∧
        (if query.order = [] then []
          else .fixed " " :: .fixed "ORDER BY " ::
            Fragment.joined "," (List.zipWith SortKey.fragment query.order columns)) =
          fragment := by
  simp only [orderFragment, Context.orderFragment, Result.bind_eq_ok_iff, Result.mapM_eq_ok_iff,
    Result.pure_eq_ok_iff, exists_exists_and_eq_and, sortFragment, List.isEmpty_iff]
  by_cases unordered : query.order = []
  · simp only [if_pos unordered, ↓reduceIte]
  · simp only [if_neg unordered, reduceCtorEq, ↓reduceIte]

theorem rowsFragment_eq_ok_iff :
    query.rowsFragment = .ok fragment ↔
      query.checkPaging = .ok () ∧ ∃ source order paging,
        query.sourceFragment = .ok source ∧ query.orderFragment = .ok order ∧
        query.settings.dialect.pagingText query.limit query.offset = .ok paging ∧
        .fixed "SELECT " :: query.columnsFragment ++ source ++ order ++ [.fixed paging] =
          fragment := by
  simp only [rowsFragment, Result.bind_eq_ok_iff, Result.pure_eq_ok_iff, exists_and_left]
  exact ⟨fun ⟨(), checked, written⟩ => ⟨checked, written⟩,
    fun ⟨checked, written⟩ => ⟨(), checked, written⟩⟩

theorem totalFragment_eq_ok_iff :
    query.totalFragment = .ok fragment ↔
      ∃ source, query.sourceFragment = .ok source ∧
        .fixed "SELECT " :: .fixed "COUNT(*)" :: source = fragment := by
  simp only [totalFragment, Result.bind_eq_ok_iff, Result.pure_eq_ok_iff]

end Select

theorem Insert.fragment_eq_ok_iff {row : Insert} {fragment : Fragment} :
    row.fragment = .ok fragment ↔
      (row.assignments = [] ∧
        [.fixed "INSERT INTO ", .name row.table, .fixed " DEFAULT VALUES"] = fragment) ∨
      ∃ values, (row.settings.context none none).valuesFragment row.assignments = .ok values ∧
        .fixed "INSERT INTO " :: .name row.table :: .fixed " " :: values = fragment := by
  unfold Insert.fragment
  by_cases empty : row.assignments = []
  · have noValues : ∀ values,
        (row.settings.context none none).valuesFragment row.assignments ≠ .ok values :=
      fun values written => (Context.valuesFragment_eq_ok_iff.mp written).1 empty
    simp only [empty, List.isEmpty_nil, ↓reduceIte, Result.pure_eq_ok_iff, true_and] at noValues ⊢
    simp only [noValues, false_and, exists_const, or_false]
  · simp only [List.isEmpty_iff, empty, ↓reduceIte, Result.bind_eq_ok_iff, Result.pure_eq_ok_iff,
      false_and, false_or]

theorem Update.fragment_eq_ok_iff {change : Update} {fragment : Fragment} :
    change.fragment = .ok fragment ↔
      ∃ set clause,
        (change.filter.context change.settings).setFragment change.assignments = .ok set ∧
        change.filter.fragment? change.settings = .ok clause ∧
        .fixed "UPDATE " :: .name change.table :: .fixed " " :: set ++ clause.getD [] =
          fragment := by
  simp only [Update.fragment, Result.bind_eq_ok_iff, Result.pure_eq_ok_iff, exists_and_left]

theorem Delete.fragment_eq_ok_iff {removal : Delete} {fragment : Fragment} :
    removal.fragment = .ok fragment ↔
      ∃ clause, removal.filter.fragment? removal.settings = .ok clause ∧
        .fixed "DELETE FROM " :: .name removal.table ::
          clause.getD (if removal.allowsAll then [] else [.fixed " WHERE 1=0"]) = fragment := by
  simp only [Delete.fragment, filterFragment, Result.bind_eq_ok_iff, Result.pure_eq_ok_iff]
  constructor
  · intro given
    obtain ⟨_, ⟨clause, clauseOk, filled⟩, rfl⟩ := given
    refine ⟨clause, clauseOk, ?_⟩
    cases clause with
    | none => cases filled; rfl
    | some inner => cases filled; rfl
  · intro given
    obtain ⟨clause, clauseOk, rfl⟩ := given
    refine ⟨_, ⟨clause, clauseOk, ?_⟩, rfl⟩
    cases clause <;> rfl

theorem rowValuesFragment_eq_ok_iff {table : String} {assignments : List Assignment}
    {settings : Settings} {fragment : Fragment} :
    rowValuesFragment table assignments settings = .ok fragment ↔
      Text.isBlankText table = false ∧
        (settings.context none none).valuesFragment assignments = .ok fragment := by
  unfold rowValuesFragment
  cases Text.isBlankText table with
  | true =>
      refine ⟨fun written => ?_, fun written => absurd written.1 (by decide)⟩
      cases written
  | false => simp

end QueryText
