import QueryText.Clause
import QueryText.Statement.Rendered

/-!
# INSERT

A row under construction. A row without assignments takes the defaults of all columns.
-/

set_option autoImplicit false

namespace QueryText

structure Insert where
  table : String
  assignments : List Assignment := []
  settings : Settings := .standard

namespace Insert

def intoTable (table : String) : Insert :=
  { table }

def assignAll (row : Insert) (assignments : List Assignment) : Insert :=
  { row with assignments := row.assignments ++ assignments }

def assign (row : Insert) (assignment : Assignment) : Insert :=
  row.assignAll [assignment]

def setOption (row : Insert) (column : String) (value : Option Value) : Insert :=
  match value with
  | some value => row.assign (.set column value)
  | none => row

def withSettings (row : Insert) (settings : Settings) : Insert :=
  { row with settings }

def withDialect (row : Insert) (dialect : Dialect) : Insert :=
  { row with settings := row.settings.withDialect dialect }

def fragment (row : Insert) : Except RenderError Fragment := do
  if row.assignments.isEmpty then
    return [.fixed "INSERT INTO ", .name row.table, .fixed " DEFAULT VALUES"]
  let values ← (row.settings.context none none).valuesFragment row.assignments
  return .fixed "INSERT INTO " :: .name row.table :: .fixed " " :: values

def statement (row : Insert) : Outcome :=
  row.fragment.map (Fragment.rendered row.settings)

def build (row : Insert) : Logged :=
  row.statement.logged "insert" row.settings

def toSql (row : Insert) : Except RenderError String :=
  row.statement.map Rendered.sql

end Insert

end QueryText
