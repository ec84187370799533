import QueryText.Statement.Filter
import QueryText.Statement.Rendered

/-!
# DELETE

A removal of rows under construction. Without a filter it removes nothing, unless the removal of
all rows is allowed.
-/

set_option autoImplicit false

namespace QueryText

structure Delete where
  table : String
  filter : Filter := {}
  allowsAll : Bool := false
  settings : Settings := .standard

namespace Delete

def ofTable (table : String) : Delete :=
  { table }

def ofEntity (entity : Entity) : Delete :=
  { table := entity.table, filter := .ofEntity entity }

def allowAll (removal : Delete) (allowed : Bool) : Delete :=
  { removal with allowsAll := allowed }

def addFilter (removal : Delete) (expr : Expr) : Delete :=
  { removal with filter := removal.filter.and expr }

def bind (removal : Delete) (name : String) (value : Value) : Delete :=
  { removal with filter := removal.filter.bind name value }

def withScope (removal : Delete) (scope : Scope) : Delete :=
  { removal with filter := removal.filter.withScope scope }

def withSettings (removal : Delete) (settings : Settings) : Delete :=
  { removal with settings }

def withDialect (removal : Delete) (dialect : Dialect) : Delete :=
  { removal with settings := removal.settings.withDialect dialect }

def filterFragment (removal : Delete) : Except RenderError Fragment := do
  match ← removal.filter.fragment? removal.settings with
  | some fragment => return fragment
  | none => return if removal.allowsAll then [] else [.fixed " WHERE 1=0"]

def fragment (removal : Delete) : Except RenderError Fragment := do
  let filter ← removal.filterFragment
  return .fixed "DELETE FROM " :: .name removal.table :: filter

def statement (removal : Delete) : Outcome :=
  removal.fragment.map (Fragment.rendered removal.settings)

def build (removal : Delete) : Logged :=
  removal.statement.logged "delete" removal.settings

def toSql (removal : Delete) : Except RenderError String :=
  removal.statement.map Rendered.sql

end Delete

end QueryText
