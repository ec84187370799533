import QueryText.Statement.Filter
import QueryText.Statement.Rendered

/-!
# UPDATE

A change of rows under construction.
-/

set_option autoImplicit false

namespace QueryText

structure Update where
  table : String
  assignments : List Assignment := []
  filter : Filter := {}
  settings : Settings := .standard

namespace Update

def ofTable (table : String) : Update :=
  { table }

def ofEntity (entity : Entity) : Update :=
  { table := entity.table, filter := .ofEntity entity }

def assignAll (change : Update) (assignments : List Assignment) : Update :=
  { change with assignments := change.assignments ++ assignments }

def assign (change : Update) (assignment : Assignment) : Update :=
  change.assignAll [assignment]

def addFilter (change : Update) (expr : Expr) : Update :=
  { change with filter := change.filter.and expr }

def bind (change : Update) (name : String) (value : Value) : Update :=
  { change with filter := change.filter.bind name value }

def withScope (change : Update) (scope : Scope) : Update :=
  { change with filter := change.filter.withScope scope }

def withSettings (change : Update) (settings : Settings) : Update :=
  { change with settings }

def withDialect (change : Update) (dialect : Dialect) : Update :=
  { change with settings := change.settings.withDialect dialect }

def fragment (change : Update) : Except RenderError Fragment := do
  let set ← (change.filter.context change.settings).setFragment change.assignments
  let filter ← change.filter.fragment? change.settings
  return .fixed "UPDATE " :: .name change.table :: .fixed " " :: set ++ filter.getD []

def statement (change : Update) : Outcome :=
  change.fragment.map (Fragment.rendered change.settings)

def build (change : Update) : Logged :=
  change.statement.logged "update" change.settings

def toSql (change : Update) : Except RenderError String :=
  change.statement.map Rendered.sql

end Update

end QueryText
