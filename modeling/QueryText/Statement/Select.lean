import QueryText.Dialect.Paging
import QueryText.Statement.Filter
import QueryText.Statement.Rendered

/-!
# SELECT

A query under construction. The same query can be rendered to fetch its rows or to count them;
counting leaves out columns, order and paging.
-/

set_option autoImplicit false

namespace QueryText

structure Select where
  table : String
  columns : List String := []
  filter : Filter := {}
  order : SortOrder := []
  limit : Option UInt64 := none
  offset : Option UInt64 := none
  overflowedPage : Option (UInt64 × UInt64) := none
  settings : Settings := .standard

namespace Select

/-!
## Construction
-/

def ofTable (table : String) : Select :=
  { table }

def ofEntity (entity : Entity) : Select :=
  { table := entity.table, columns := entity.columnNames, filter := .ofEntity entity }

def withColumns (query : Select) (columns : List String) : Select :=
  { query with columns }

def addColumn (query : Select) (column : String) : Select :=
  { query with columns := query.columns ++ [column] }

def addFilter (query : Select) (expr : Expr) : Select :=
  { query with filter := query.filter.and expr }

def bind (query : Select) (name : String) (value : Value) : Select :=
  { query with filter := query.filter.bind name value }

def withScope (query : Select) (scope : Scope) : Select :=
  { query with filter := query.filter.withScope scope }

def orderBy (query : Select) (key : SortKey) : Select :=
  { query with order := .single key }

def thenBy (query : Select) (key : SortKey) : Select :=
  { query with order := query.order.thenBy key }

def withLimit (query : Select) (rows : UInt64) : Select :=
  { query with limit := some rows }

def withOffset (query : Select) (rows : UInt64) : Select :=
  { query with offset := some rows, overflowedPage := none }

/-- Keep one page of rows. Pages count from one; page zero is the first page too. -/
def withPage (query : Select) (page perPage : UInt64) : Select :=
  let page := if page = 0 then 1 else page
  let skipped := (page.toNat - 1) * perPage.toNat
  if skipped < UInt64.size then
    { query with
      limit := some perPage, offset := some (UInt64.ofNat skipped), overflowedPage := none }
  else
    { query with limit := some perPage, offset := none, overflowedPage := some (page, perPage) }

def withSettings (query : Select) (settings : Settings) : Select :=
  { query with settings }

def withDialect (query : Select) (dialect : Dialect) : Select :=
  { query with settings := query.settings.withDialect dialect }

/-!
## Rendering
-/

/-- Reject a page whose offset is beyond 64 bits, and paging without an order where the product
needs one. -/
def checkPaging (query : Select) : Except RenderError Unit := do
  if let some (page, perPage) := query.overflowedPage then
    throw (.validation ("page " ++ page.toNat.repr ++ " with " ++ perPage.toNat.repr ++
      " rows per page overflows the row offset"))
  let paged := query.limit.isSome || query.offset.isSome
  if paged && query.order.isEmpty && query.settings.dialect.pagesOnlyInOrder then
    throw (.validation ("paging on " ++ query.settings.dialect.name ++ " requires an ORDER BY"))

/-- The selected columns; without any the query selects all. -/
def columnsFragment (query : Select) : Fragment :=
  if query.columns.isEmpty then [.fixed "*"]
  else Fragment.joined "," (query.columns.map fun column => [.name column])

def sourceFragment (query : Select) : Except RenderError Fragment := do
  let filter ← query.filter.fragment? query.settings
  return .fixed " FROM " :: .name query.table :: filter.getD []

def orderFragment (query : Select) : Except RenderError Fragment := do
  let fragment ← (query.filter.context query.settings).orderFragment query.order
  return if fragment.isEmpty then [] else .fixed " " :: fragment

def rowsFragment (query : Select) : Except RenderError Fragment := do
  query.checkPaging
  let source ← query.sourceFragment
  let order ← query.orderFragment
  let paging ← query.settings.dialect.pagingText query.limit query.offset
  return .fixed "SELECT " :: query.columnsFragment ++ source ++ order ++ [.fixed paging]

def totalFragment (query : Select) : Except RenderError Fragment := do
  let source ← query.sourceFragment
  return .fixed "SELECT " :: .fixed "COUNT(*)" :: source

def rows (query : Select) : Outcome :=
  query.rowsFragment.map (Fragment.rendered query.settings)

def total (query : Select) : Outcome :=
  query.totalFragment.map (Fragment.rendered query.settings)

def build (query : Select) : Logged :=
  query.rows.logged "select" query.settings

def count (query : Select) : Logged :=
  query.total.logged "count" query.settings

def toSql (query : Select) : Except RenderError String :=
  query.rows.map Rendered.sql

end Select

end QueryText
