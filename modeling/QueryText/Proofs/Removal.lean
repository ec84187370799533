import QueryText.Proofs.Construction
import QueryText.Proofs.Lowering
import QueryText.Proofs.Pass

/-!
# Removals and their filters

A removal keeps every filter that it was given, whatever other calls stand between them, and fails
if one of them cannot be written. It removes all rows only where no filter was given and the last
word on that was the permission.
-/

set_option autoImplicit false

namespace QueryText

/-!
## Conjunctions
-/

namespace Context

variable {context : Context}

/-- Parts that are connected one after the other are lowered each on its own, from left to
right. -/
theorem condition_foldl {connect : Expr → Expr → Expr}
    {connected : Condition → Condition → Condition}
    (step : ∀ left right, context.condition (connect left right) = do
      let leftCondition ← context.condition left
      let rightCondition ← context.condition right
      return connected leftCondition rightCondition)
    (first : Expr) (rest : List Expr) :
    context.condition (rest.foldl connect first) = do
      let firstCondition ← context.condition first
      let conditions ← rest.mapM context.condition
      return conditions.foldl connected firstCondition := by
  induction rest generalizing first with
  | nil =>
      simp only [List.foldl_nil, List.mapM_nil, pure_bind, bind_pure]
  | cons next rest ih =>
      rw [List.foldl_cons, ih]
      simp only [step, List.mapM_cons, bind_assoc, pure_bind, List.foldl_cons]

theorem condition_foldl_and (first : Expr) (rest : List Expr) :
    context.condition (rest.foldl .and first) = do
      let firstCondition ← context.condition first
      let conditions ← rest.mapM context.condition
      return conditions.foldl .and firstCondition :=
  condition_foldl (fun _ _ => rfl) first rest

/-- A conjunction can be lowered exactly if each of its parts can be on its own. -/
theorem condition_foldl_and_ok_iff {first : Expr} {rest : List Expr} :
    (∃ condition, context.condition (rest.foldl .and first) = .ok condition) ↔
      ∀ expr ∈ first :: rest, ∃ condition, context.condition expr = .ok condition := by
  simp only [condition_foldl_and, Result.bind_eq_ok_iff, Result.pure_eq_ok_iff,
    Result.mapM_eq_ok_iff]
  constructor
  · intro given
    obtain ⟨_, firstCondition, firstOk, conditions, restOk, _⟩ := given
    refine List.forall_mem_cons.mpr ⟨⟨firstCondition, firstOk⟩, fun expr member => ?_⟩
    obtain ⟨condition, _, lowered⟩ := Result.exists_of_mem_left restOk member
    exact ⟨condition, lowered⟩
  · intro each
    obtain ⟨⟨firstCondition, firstOk⟩, others⟩ := List.forall_mem_cons.mp each
    obtain ⟨conditions, restOk⟩ := Result.mapM_total others
    exact ⟨_, firstCondition, firstOk, conditions, Result.mapM_eq_ok_iff.mp restOk, rfl⟩

end Context

namespace Clause

variable {settings : Settings} {scope : Option Scope} {entity : Option Entity}
  {before : Parameters}

theorem render_predicate_fails_iff {expr : Expr} :
    (∃ error, (predicate expr).render settings scope entity before = .error error) ↔
      ¬∃ condition, (settings.context scope entity).condition expr = .ok condition := by
  rw [render_predicate_eq]
  cases (settings.context scope entity).condition expr <;> simp [Except.map]

end Clause

/-!
## Texts of removals
-/

namespace Delete

variable {removal : Delete}

theorem fragment_filtered {expr : Expr} (filtered : removal.filter.expr = some expr) :
    removal.fragment =
      ((removal.filter.context removal.settings).condition expr).map fun condition =>
        .fixed "DELETE FROM " :: .name removal.table :: .fixed " " :: .fixed "WHERE " ::
          condition.fragment := by
  rw [fragment, filterFragment, Filter.fragment?, filtered]
  simp only [Context.filterFragment, Context.predicateFragment]
  cases (removal.filter.context removal.settings).condition expr with
  | error error => rfl
  | ok condition => rfl

theorem fragment_unfiltered (unfiltered : removal.filter.expr = none) :
    removal.fragment =
      .ok (.fixed "DELETE FROM " :: .name removal.table ::
        if removal.allowsAll then [] else [.fixed " WHERE 1=0"]) := by
  rw [fragment, filterFragment, Filter.fragment?, unfiltered]
  rfl

theorem outcome_filtered {expr : Expr} (filtered : removal.filter.expr = some expr) :
    removal.build.outcome =
      ((Clause.predicate expr).render removal.settings (some removal.filter.scope)
          removal.filter.entity .empty).map fun (text, parameters) =>
        ⟨"DELETE FROM " ++ removal.settings.dialect.quotedName removal.table ++ " WHERE " ++ text,
          parameters⟩ := by
  change removal.fragment.map (Fragment.rendered removal.settings) = _
  rw [fragment_filtered filtered, Clause.render_predicate_eq, Result.map_map, Result.map_map]
  refine congrArg₂ Except.map (funext fun condition => ?_) rfl
  have spaced : " WHERE " = " " ++ "WHERE " := rfl
  simp only [Function.comp, Fragment.rendered, Fragment.text_fixed, Fragment.text_name, spaced,
    String.append_assoc]
  rfl

theorem outcome_unfiltered (unfiltered : removal.filter.expr = none) :
    removal.build.outcome =
      .ok ⟨"DELETE FROM " ++ removal.settings.dialect.quotedName removal.table ++
          if removal.allowsAll then "" else " WHERE 1=0", .empty⟩ := by
  change removal.fragment.map (Fragment.rendered removal.settings) = _
  rw [fragment_unfiltered unfiltered, Except.map, Fragment.rendered]
  have silent : ∀ clause : Fragment, clause.slots = Fragment.slots [] →
      Fragment.bind removal.settings .empty
        (.fixed "DELETE FROM " :: .name removal.table :: clause) = .empty := fun clause same =>
    (Fragment.bind_congr same _).trans (Fragment.bind_nil _)
  cases removal.allowsAll with
  | true => simp [silent [] rfl]
  | false => simp [silent [.fixed " WHERE 1=0"] rfl, String.append_assoc]

/-!
## Calls
-/

/-- Whatever calls make a removal, it keeps all filters that they add, joined in their order and
read with the variables and the settings that the calls leave. Without a filter it removes nothing,
unless the last word on that allows the removal of all rows. So its text ends behind the table only
by that permission. It fails exactly if one of the filters fails on its own. -/
theorem built_keeps_filters (origin : Origin) (calls : List Call) :
    let filters := calls.filterMap Call.filter?
    let scope := (calls.filterMap Call.scope?).foldl Scope.apply .empty
    let settings := (calls.filterMap Call.settings?).foldl Settings.apply .standard
    let allowed := (calls.filterMap Call.allowAll?).getLast?
    let table := "DELETE FROM " ++ settings.dialect.quotedName origin.tableName
    let rendered := fun expr =>
      (Clause.predicate expr).render settings (some scope) origin.entity? .empty
    let outcome := (built origin calls).build.outcome
    (∀ first rest, filters = first :: rest →
      outcome = (rendered (rest.foldl .and first)).map fun (text, parameters) =>
        ⟨table ++ " WHERE " ++ text, parameters⟩) ∧
    (filters = [] →
      outcome = .ok ⟨table ++ if allowed = some true then "" else " WHERE 1=0", .empty⟩) ∧
    (∀ removal, outcome = .ok removal →
      (removal.sql = table ↔ filters = [] ∧ allowed = some true)) ∧
    ((∃ error, outcome = .error error) ↔
      ∃ filter ∈ filters, ∃ error, rendered filter = .error error) := by
  intro filters scope settings allowed table rendered outcome
  have parts := built_eq origin calls
  have filtered : ∀ first rest, filters = first :: rest →
      outcome = (rendered (rest.foldl .and first)).map fun (text, parameters) =>
        ⟨table ++ " WHERE " ++ text, parameters⟩ := by
    intro first rest added
    have joined : (built origin calls).filter.expr = some (rest.foldl .and first) := by
      rw [parts]
      exact (congrArg (List.foldl Filter.joined none) added).trans
        (Filter.foldl_joined first rest)
    exact (outcome_filtered joined).trans (by rw [parts])
  have unfiltered : filters = [] →
      outcome = .ok ⟨table ++ if allowed = some true then "" else " WHERE 1=0", .empty⟩ := by
    intro added
    have empty : (built origin calls).filter.expr = none := by
      rw [parts]
      exact congrArg (List.foldl Filter.joined none) added
    have permitted : ∀ last : Option Bool, (last.getD false = true) = (last = some true) := by
      rintro (_ | _ | _) <;> simp
    exact (outcome_unfiltered empty).trans (by simp only [parts, permitted]; rfl)
  refine ⟨filtered, unfiltered, ?_, ?_⟩
  · intro removal built
    cases added : filters with
    | nil =>
        rw [unfiltered added] at built
        cases built
        by_cases permitted : allowed = some true
        · simp [permitted]
        · simp [permitted]
    | cons first rest =>
        rw [filtered first rest added] at built
        obtain ⟨⟨text, parameters⟩, _, rfl⟩ := Result.map_eq_ok_iff.mp built
        simp [String.append_assoc]
  · cases added : filters with
    | nil => simp [unfiltered added]
    | cons first rest =>
        have failed : (∃ error, outcome = .error error) ↔
            ∃ error, rendered (rest.foldl .and first) = .error error := by
          rw [filtered first rest added]
          cases rendered (rest.foldl .and first) <;> simp [Except.map]
        rw [failed, Clause.render_predicate_fails_iff, Context.condition_foldl_and_ok_iff]
        simp only [rendered, Clause.render_predicate_fails_iff, not_forall, exists_prop]

/-- Two filters between other calls, of which the second replaces the variables of the first. -/
def samplePurge : List Call :=
  [.allowAll true, .scope (.bind "age" (.int32 30)),
    .filter (.compare .lt (.property "Age") (.captured "age")),
    .settings (.dialect .postgreSql), .allowAll false,
    .filter (.not (.isNull false (.property "Left"))),
    .scope (.replace (Scope.empty.bind "age" (.int32 90))), .allowAll true]

theorem built_keeps_filters_samplePurge :
    (∃ removal, (built (.table "Member") samplePurge).build.outcome = .ok removal ∧
      removal.sql =
        "DELETE FROM \"Member\" WHERE (\"Age\" < :Age_0) AND (NOT (\"Left\" IS NULL))" ∧
      removal.parameters.toList = [⟨"Age_0", .int32 90, .int32⟩] ∧
      removal.sql ≠ "DELETE FROM \"Member\"") ∧
    (built (.table "Member") [.allowAll true, .allowAll false]).build.outcome =
      .ok ⟨"DELETE FROM [Member] WHERE 1=0", .empty⟩ ∧
    (built (.table "Member") [.allowAll false, .allowAll true]).build.outcome =
      .ok ⟨"DELETE FROM [Member]", .empty⟩ ∧
    ∃ error, (built (.table "Member") (samplePurge ++ [.scope (.replace .empty)])).build.outcome =
      .error error := by
  refine ⟨?_, ?_, ?_, ?_⟩
  · obtain ⟨filtered, _, alone, _⟩ := built_keeps_filters (.table "Member") samplePurge
    have kept := filtered (.compare .lt (.property "Age") (.captured "age"))
      [.not (.isNull false (.property "Left"))] rfl
    obtain ⟨removal, built, spelled, bound⟩ : ∃ removal,
        (built (.table "Member") samplePurge).build.outcome = .ok removal ∧
        removal.sql =
          "DELETE FROM \"Member\" WHERE (\"Age\" < :Age_0) AND (NOT (\"Left\" IS NULL))" ∧
        removal.parameters.toList = [⟨"Age_0", .int32 90, .int32⟩] :=
      ⟨_, kept, by decide +kernel, rfl⟩
    exact ⟨removal, built, spelled, bound, fun lost => nomatch ((alone removal built).mp lost).1⟩
  · obtain ⟨_, unfiltered, _⟩ :=
      built_keeps_filters (.table "Member") [.allowAll true, .allowAll false]
    rw [unfiltered rfl, Except.ok.injEq, Rendered.mk.injEq]
    exact ⟨by decide +kernel, rfl⟩
  · obtain ⟨_, unfiltered, _⟩ :=
      built_keeps_filters (.table "Member") [.allowAll false, .allowAll true]
    rw [unfiltered rfl, Except.ok.injEq, Rendered.mk.injEq]
    exact ⟨by decide +kernel, rfl⟩
  · obtain ⟨_, _, _, fails⟩ :=
      built_keeps_filters (.table "Member") (samplePurge ++ [.scope (.replace .empty)])
    exact fails.mpr ⟨_, List.mem_cons_self .., _, rfl⟩

end Delete

end QueryText
