import QueryText.Clause
import QueryText.Statement.Rendered
import QueryText.Text.Blank

/-!
# Parts of statements

The clauses that callers put into statements of their own, each with parameters of its own.
-/

set_option autoImplicit false

namespace QueryText

def rowValuesFragment (table : String) (assignments : List Assignment) (settings : Settings) :
    Except RenderError Fragment := do
  if Text.isBlankText table then
    throw (.validation "INSERT target table name is empty")
  (settings.context none none).valuesFragment assignments

def valuesOutcome (table : String) (assignments : List Assignment) (settings : Settings) :
    Outcome :=
  (rowValuesFragment table assignments settings).map (Fragment.rendered settings)

def whereOutcome (expr : Expr) (scope : Scope) (entity : Option Entity) (settings : Settings) :
    Outcome :=
  ((settings.context (some scope) entity).filterFragment expr).map (Fragment.rendered settings)

/-- Render the column and value lists of an INSERT. The table is only checked. -/
def rowValues (table : String) (assignments : List Assignment) (settings : Settings) :
    Logged :=
  (valuesOutcome table assignments settings).logged "values" settings

def rowFilter (expr : Expr) (scope : Scope) (entity : Option Entity) (settings : Settings) :
    Logged :=
  (whereOutcome expr scope entity settings).logged "where" settings

def rowOrder (keys : SortOrder) (dialect : Dialect) : String :=
  Fragment.text (Settings.standard.withDialect dialect) 0
    (sortFragment keys (keys.map SortKey.column))

end QueryText
