import QueryText.Proofs.Fragment
import QueryText.Proofs.Result
import QueryText.Statement.Delete
import QueryText.Statement.Insert
import QueryText.Statement.Part
import QueryText.Statement.Select
import QueryText.Statement.Update

/-!
# Requests

Whatever is rendered with parameters of its own: the four statements, the count of a query, and the
two parts of statements that bind values. A request writes one fragment under its settings.
-/

set_option autoImplicit false

namespace QueryText

/-- Something to be rendered with parameters of its own. -/
inductive Request where
  | rows (query : Select)
  | total (query : Select)
  | insert (row : Insert)
  | update (change : Update)
  | delete (removal : Delete)
  | filter (expr : Expr) (scope : Scope) (entity : Option Entity) (settings : Settings)
  | values (table : String) (assignments : List Assignment) (settings : Settings)

namespace Request

def settings : Request → Settings
  | .rows query | .total query => query.settings
  | .insert row => row.settings
  | .update change => change.settings
  | .delete removal => removal.settings
  | .filter _ _ _ settings | .values _ _ settings => settings

def withSettings (request : Request) (settings : Settings) : Request :=
  match request with
  | .rows query => .rows (query.withSettings settings)
  | .total query => .total (query.withSettings settings)
  | .insert row => .insert (row.withSettings settings)
  | .update change => .update (change.withSettings settings)
  | .delete removal => .delete (removal.withSettings settings)
  | .filter expr scope entity _ => .filter expr scope entity settings
  | .values table assignments _ => .values table assignments settings

def outcome : Request → Outcome
  | .rows query => query.build.outcome
  | .total query => query.count.outcome
  | .insert row => row.build.outcome
  | .update change => change.build.outcome
  | .delete removal => removal.build.outcome
  | .filter expr scope entity settings => (rowFilter expr scope entity settings).outcome
  | .values table assignments settings => (rowValues table assignments settings).outcome

def fragment : Request → Except RenderError Fragment
  | .rows query => query.rowsFragment
  | .total query => query.totalFragment
  | .insert row => row.fragment
  | .update change => change.fragment
  | .delete removal => removal.fragment
  | .filter expr scope entity settings =>
    (settings.context (some scope) entity).filterFragment expr
  | .values table assignments settings => rowValuesFragment table assignments settings

theorem outcome_eq (request : Request) :
    request.outcome = request.fragment.map (Fragment.rendered request.settings) := by
  cases request <;> rfl

@[simp] theorem settings_withSettings (request : Request) (settings : Settings) :
    (request.withSettings settings).settings = settings := by
  cases request <;> rfl

@[simp] theorem withSettings_settings (request : Request) :
    request.withSettings request.settings = request := by
  cases request <;> rfl

/-- A request succeeds exactly when it has a fragment, and the result is that fragment written. -/
theorem outcome_eq_ok_iff {request : Request} {rendered : Rendered} :
    request.outcome = .ok rendered ↔
      ∃ fragment, request.fragment = .ok fragment ∧
        Fragment.rendered request.settings fragment = rendered := by
  rw [outcome_eq, Result.map_eq_ok_iff]

theorem parameters_rendered (settings : Settings) (fragment : Fragment) :
    (Fragment.rendered settings fragment).parameters.toList =
      if settings.useParameters then Slot.parametersFrom 0 fragment.slots else [] := by
  rw [Fragment.rendered, Fragment.bind_toList]
  rfl

end Request

end QueryText
