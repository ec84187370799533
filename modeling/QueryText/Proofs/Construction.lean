import Mathlib.Data.List.Induction
import QueryText.Statement.Delete
import QueryText.Statement.Select
import QueryText.Statement.Update

/-!
# Construction of statements

A statement is built by a sequence of calls. The calls come in groups, each of which changes a part
of the statement of its own, so that every part depends on the calls of one group alone. What a call
of a group replaces is what the last such call has made it.
-/

set_option autoImplicit false

namespace QueryText

/-!
## Calls that all statements have
-/

/-- What a statement is started with. -/
inductive Origin where
  | table (name : String)
  | entity (entity : Entity)

namespace Origin

def tableName : Origin → String
  | table name => name
  | entity described => described.table

def columnNames : Origin → List String
  | table _ => []
  | entity described => described.columnNames

def entity? : Origin → Option Entity
  | table _ => none
  | entity described => some described

end Origin

inductive ScopeCall where
  | bind (name : String) (value : Value)
  | replace (scope : Scope)

def Scope.apply (scope : Scope) : ScopeCall → Scope
  | .bind name value => scope.bind name value
  | .replace other => other

inductive SettingsCall where
  | dialect (dialect : Dialect)
  | replace (settings : Settings)

def Settings.apply (settings : Settings) : SettingsCall → Settings
  | .dialect dialect => settings.withDialect dialect
  | .replace other => other

namespace Filter

/-- The predicate with another one added to it. -/
def joined (current : Option Expr) (added : Expr) : Option Expr :=
  match current with
  | some current => some (.and current added)
  | none => some added

theorem foldl_joined (first : Expr) (rest : List Expr) :
    (first :: rest).foldl joined none = some (rest.foldl .and first) := by
  change rest.foldl joined (some first) = _
  induction rest generalizing first with
  | nil => rfl
  | cons next rest ih => exact ih (.and first next)

end Filter

/-!
## Calls for paging
-/

inductive PagingCall where
  | limit (rows : UInt64)
  | offset (rows : UInt64)
  | page (page perPage : UInt64)

namespace PagingCall

def limit? : PagingCall → Option UInt64
  | limit rows => some rows
  | offset _ => none
  | page _ perPage => some perPage

def setsOffset : PagingCall → Bool
  | limit _ => false
  | offset _ | page _ _ => true

/-- How many rows a call asks to skip, however many they are. Page zero is the first page too. -/
def skipped : PagingCall → Nat
  | limit _ => 0
  | offset rows => rows.toNat
  | page asked perPage => (max asked.toNat 1 - 1) * perPage.toNat

def offset? (call : PagingCall) : Option UInt64 :=
  if call.skipped < UInt64.size then some (UInt64.ofNat call.skipped) else none

/-- The number of a page and its rows, if a call asks for a page that starts beyond 64 bits. -/
def overflowed? : PagingCall → Option (UInt64 × UInt64)
  | limit _ | offset _ => none
  | page asked perPage =>
    if (page asked perPage).skipped < UInt64.size then none
    else some (if asked = 0 then 1 else asked, perPage)

/-- The limit after a sequence of calls. -/
def lastLimit (calls : List PagingCall) : Option UInt64 :=
  (calls.filterMap limit?).getLast?

/-- The call that decides about the offset after a sequence of calls. -/
def lastOffset (calls : List PagingCall) : Option PagingCall :=
  (calls.filter setsOffset).getLast?

theorem lastLimit_append (earlier later : List PagingCall) :
    lastLimit (earlier ++ later) = (lastLimit later).or (lastLimit earlier) := by
  rw [lastLimit, List.filterMap_append, List.getLast?_append]
  rfl

theorem lastOffset_append (earlier later : List PagingCall) :
    lastOffset (earlier ++ later) = (lastOffset later).or (lastOffset earlier) := by
  rw [lastOffset, List.filter_append, List.getLast?_append]
  rfl

theorem toNat_first (page : UInt64) :
    (if page = 0 then 1 else page).toNat = max page.toNat 1 := by
  by_cases zero : page = 0
  · rw [zero]
    rfl
  · have positive : page.toNat ≠ 0 := fun same => zero (UInt64.toNat_inj.mp same)
    rw [if_neg zero]
    omega

theorem offset?_offset (rows : UInt64) : (offset rows).offset? = some rows := by
  rw [offset?, skipped, if_pos rows.toNat_lt, UInt64.ofNat_toNat]

end PagingCall

/-!
## Queries
-/

inductive ColumnsCall where
  | add (column : String)
  | replace (columns : List String)

def ColumnsCall.apply (columns : List String) : ColumnsCall → List String
  | add column => columns ++ [column]
  | replace others => others

inductive OrderCall where
  | add (key : SortKey)
  | replace (key : SortKey)

def SortOrder.apply (order : SortOrder) : OrderCall → SortOrder
  | .add key => order.thenBy key
  | .replace key => .single key

namespace Select

inductive Call where
  | columns (call : ColumnsCall)
  | filter (expr : Expr)
  | scope (call : ScopeCall)
  | order (call : OrderCall)
  | paging (call : PagingCall)
  | settings (call : SettingsCall)

namespace Call

def columns? : Call → Option ColumnsCall
  | columns call => some call
  | _ => none

def filter? : Call → Option Expr
  | filter expr => some expr
  | _ => none

def scope? : Call → Option ScopeCall
  | scope call => some call
  | _ => none

def order? : Call → Option OrderCall
  | order call => some call
  | _ => none

def paging? : Call → Option PagingCall
  | paging call => some call
  | _ => none

def settings? : Call → Option SettingsCall
  | settings call => some call
  | _ => none

end Call

def ofOrigin : Origin → Select
  | .table name => ofTable name
  | .entity entity => ofEntity entity

def apply (query : Select) : Call → Select
  | .columns (.add column) => query.addColumn column
  | .columns (.replace columns) => query.withColumns columns
  | .filter expr => query.addFilter expr
  | .scope (.bind name value) => query.bind name value
  | .scope (.replace scope) => query.withScope scope
  | .order (.add key) => query.thenBy key
  | .order (.replace key) => query.orderBy key
  | .paging (.limit rows) => query.withLimit rows
  | .paging (.offset rows) => query.withOffset rows
  | .paging (.page page perPage) => query.withPage page perPage
  | .settings (.dialect dialect) => query.withDialect dialect
  | .settings (.replace settings) => query.withSettings settings

/-- The query that a sequence of calls makes of another one. -/
def after (start : Select) (calls : List Call) : Select :=
  calls.foldl apply start

/-- The query that a sequence of calls makes. -/
def built (origin : Origin) (calls : List Call) : Select :=
  calls.foldl apply (ofOrigin origin)

theorem withPage_eq (query : Select) (page perPage : UInt64) :
    query.withPage page perPage =
      { query with
        limit := some perPage
        offset := (PagingCall.page page perPage).offset?
        overflowedPage := (PagingCall.page page perPage).overflowed? } := by
  have skipped : ((if page = 0 then 1 else page).toNat - 1) * perPage.toNat =
      (PagingCall.page page perPage).skipped := by
    rw [PagingCall.toNat_first, PagingCall.skipped]
  simp only [withPage, skipped, PagingCall.offset?, PagingCall.overflowed?]
  split <;> rfl

/-- What calls make of a query: each part comes from the part that there was by the calls of its
group alone. -/
theorem after_eq (start : Select) (calls : List Call) :
    start.after calls =
      { table := start.table
        columns := (calls.filterMap Call.columns?).foldl ColumnsCall.apply start.columns
        filter :=
          { expr := (calls.filterMap Call.filter?).foldl Filter.joined start.filter.expr
            scope := (calls.filterMap Call.scope?).foldl Scope.apply start.filter.scope
            entity := start.filter.entity }
        order := (calls.filterMap Call.order?).foldl SortOrder.apply start.order
        limit := (PagingCall.lastLimit (calls.filterMap Call.paging?)).or start.limit
        offset :=
          (PagingCall.lastOffset (calls.filterMap Call.paging?)).elim start.offset
            PagingCall.offset?
        overflowedPage :=
          (PagingCall.lastOffset (calls.filterMap Call.paging?)).elim start.overflowedPage
            PagingCall.overflowed?
        settings :=
          (calls.filterMap Call.settings?).foldl Settings.apply start.settings } := by
  induction calls using List.reverseRecOn with
  | nil => rfl
  | append_singleton earlier call ih =>
      have step : start.after (earlier ++ [call]) = (start.after earlier).apply call :=
        List.foldl_append ..
      rw [step, ih]
      simp only [List.filterMap_append, List.foldl_append, PagingCall.lastLimit_append,
        PagingCall.lastOffset_append]
      cases call with
      | columns call => cases call <;> rfl
      | filter expr => rfl
      | scope call => cases call <;> rfl
      | order call => cases call <;> rfl
      | settings call => cases call <;> rfl
      | paging call =>
          cases call with
          | limit rows => rfl
          | offset rows =>
              have offset : some rows = (PagingCall.offset rows).offset? :=
                (PagingCall.offset?_offset rows).symm
              rw [apply, withOffset, offset]
              rfl
          | page page perPage =>
              rw [apply, withPage_eq]
              rfl

/-- What a query is made of: each part comes from the calls of its group alone. -/
theorem built_eq (origin : Origin) (calls : List Call) :
    built origin calls =
      { table := origin.tableName
        columns := (calls.filterMap Call.columns?).foldl ColumnsCall.apply origin.columnNames
        filter :=
          { expr := (calls.filterMap Call.filter?).foldl Filter.joined none
            scope := (calls.filterMap Call.scope?).foldl Scope.apply .empty
            entity := origin.entity? }
        order := (calls.filterMap Call.order?).foldl SortOrder.apply []
        limit := PagingCall.lastLimit (calls.filterMap Call.paging?)
        offset :=
          (PagingCall.lastOffset (calls.filterMap Call.paging?)).bind PagingCall.offset?
        overflowedPage :=
          (PagingCall.lastOffset (calls.filterMap Call.paging?)).bind PagingCall.overflowed?
        settings := (calls.filterMap Call.settings?).foldl Settings.apply .standard } := by
  have unset : ∀ {β : Type} (last : Option PagingCall) (part : PagingCall → Option β),
      last.elim none part = last.bind part := fun last part => by cases last <;> rfl
  change (ofOrigin origin).after calls = _
  rw [after_eq]
  cases origin with
  | table name => simp only [ofOrigin, ofTable, Option.or_none, unset]; rfl
  | entity entity => simp only [ofOrigin, ofEntity, Filter.ofEntity, Option.or_none, unset]; rfl

/-!
### Queries without paging
-/

structure Unpaged (query : Select) : Prop where
  limit : query.limit = none
  offset : query.offset = none
  overflowedPage : query.overflowedPage = none

def unpaged (query : Select) : Select :=
  { query with limit := none, offset := none, overflowedPage := none }

theorem unpaged_unpaged (query : Select) : query.unpaged.Unpaged :=
  ⟨rfl, rfl, rfl⟩

def Call.leavesPaging (call : Call) : Bool :=
  call.paging?.isNone

theorem filterMap_leavesPaging {μ : Type} {part : Call → Option μ}
    (others : ∀ call, part (.paging call) = none) (calls : List Call) :
    (calls.filter Call.leavesPaging).filterMap part = calls.filterMap part := by
  rw [List.filterMap_filter]
  congr 1
  funext call
  cases call with
  | paging call => exact (others call).symm
  | columns call => rfl
  | filter expr => rfl
  | scope call => rfl
  | order call => rfl
  | settings call => rfl

theorem filterMap_paging_eq_nil {calls : List Call}
    (leaves : ∀ call ∈ calls, call.leavesPaging = true) : calls.filterMap Call.paging? = [] :=
  List.filterMap_eq_nil_iff.mpr fun call member => Option.isNone_iff_eq_none.mp (leaves call member)

/-- Calls that do not page make a query without paging. -/
theorem built_unpaged (origin : Origin) {calls : List Call}
    (leaves : ∀ call ∈ calls, call.leavesPaging = true) : (built origin calls).Unpaged := by
  rw [built_eq, filterMap_paging_eq_nil leaves]
  exact ⟨rfl, rfl, rfl⟩

/-- Without its paging a query is what the calls make that do not page. -/
theorem built_leavesPaging (origin : Origin) (calls : List Call) :
    built origin (calls.filter Call.leavesPaging) = (built origin calls).unpaged := by
  have unpaged : (calls.filter Call.leavesPaging).filterMap Call.paging? = [] :=
    filterMap_paging_eq_nil fun _ member => (List.mem_filter.mp member).2
  rw [built_eq, built_eq, unpaged, filterMap_leavesPaging fun _ => rfl,
    filterMap_leavesPaging fun _ => rfl, filterMap_leavesPaging fun _ => rfl,
    filterMap_leavesPaging fun _ => rfl, filterMap_leavesPaging fun _ => rfl]
  rfl

end Select

/-!
## Changes
-/

inductive AssignmentCall where
  | set (column : String) (value : Value)
  | setTyped (column : String) (value : Value) (dataType : DataType)
  | setNow (column : String)
  | add (column : String) (value : Value)
  | subtract (column : String) (value : Value)
  | all (assignments : List Assignment)

/-- No call of this group replaces what there was. -/
def AssignmentCall.apply (assignments : List Assignment) : AssignmentCall → List Assignment
  | set column value => assignments ++ [.set column value]
  | setTyped column value dataType => assignments ++ [.typed column value dataType]
  | setNow column => assignments ++ [.now column]
  | add column value => assignments ++ [.add column value]
  | subtract column value => assignments ++ [.subtract column value]
  | all others => assignments ++ others

namespace Update

inductive Call where
  | assignment (call : AssignmentCall)
  | filter (expr : Expr)
  | scope (call : ScopeCall)
  | settings (call : SettingsCall)

namespace Call

def assignment? : Call → Option AssignmentCall
  | assignment call => some call
  | _ => none

def filter? : Call → Option Expr
  | filter expr => some expr
  | _ => none

def scope? : Call → Option ScopeCall
  | scope call => some call
  | _ => none

def settings? : Call → Option SettingsCall
  | settings call => some call
  | _ => none

end Call

def apply (change : Update) : Call → Update
  | .assignment (.set column value) => change.assign (.set column value)
  | .assignment (.setTyped column value dataType) => change.assign (.typed column value dataType)
  | .assignment (.setNow column) => change.assign (.now column)
  | .assignment (.add column value) => change.assign (.add column value)
  | .assignment (.subtract column value) => change.assign (.subtract column value)
  | .assignment (.all assignments) => change.assignAll assignments
  | .filter expr => change.addFilter expr
  | .scope (.bind name value) => change.bind name value
  | .scope (.replace scope) => change.withScope scope
  | .settings (.dialect dialect) => change.withDialect dialect
  | .settings (.replace settings) => change.withSettings settings

/-- The change that a sequence of calls makes of another one. -/
def after (start : Update) (calls : List Call) : Update :=
  calls.foldl apply start

/-- What calls make of a change: each part comes from the part that there was by the calls of its
group alone. -/
theorem after_eq (start : Update) (calls : List Call) :
    start.after calls =
      { table := start.table
        assignments :=
          (calls.filterMap Call.assignment?).foldl AssignmentCall.apply start.assignments
        filter :=
          { expr := (calls.filterMap Call.filter?).foldl Filter.joined start.filter.expr
            scope := (calls.filterMap Call.scope?).foldl Scope.apply start.filter.scope
            entity := start.filter.entity }
        settings :=
          (calls.filterMap Call.settings?).foldl Settings.apply start.settings } := by
  induction calls using List.reverseRecOn with
  | nil => rfl
  | append_singleton earlier call ih =>
      have step : start.after (earlier ++ [call]) = (start.after earlier).apply call :=
        List.foldl_append ..
      rw [step, ih]
      simp only [List.filterMap_append, List.foldl_append]
      cases call with
      | assignment call => cases call <;> rfl
      | filter expr => rfl
      | scope call => cases call <;> rfl
      | settings call => cases call <;> rfl

end Update

/-!
## Removals
-/

namespace Delete

inductive Call where
  | filter (expr : Expr)
  | scope (call : ScopeCall)
  | settings (call : SettingsCall)
  | allowAll (allowed : Bool)

namespace Call

def filter? : Call → Option Expr
  | filter expr => some expr
  | _ => none

def scope? : Call → Option ScopeCall
  | scope call => some call
  | _ => none

def settings? : Call → Option SettingsCall
  | settings call => some call
  | _ => none

def allowAll? : Call → Option Bool
  | allowAll allowed => some allowed
  | _ => none

end Call

def ofOrigin : Origin → Delete
  | .table name => ofTable name
  | .entity entity => ofEntity entity

def apply (removal : Delete) : Call → Delete
  | .filter expr => removal.addFilter expr
  | .scope (.bind name value) => removal.bind name value
  | .scope (.replace scope) => removal.withScope scope
  | .settings (.dialect dialect) => removal.withDialect dialect
  | .settings (.replace settings) => removal.withSettings settings
  | .allowAll allowed => removal.allowAll allowed

/-- The removal that a sequence of calls makes of another one. -/
def after (start : Delete) (calls : List Call) : Delete :=
  calls.foldl apply start

/-- The removal that a sequence of calls makes. -/
def built (origin : Origin) (calls : List Call) : Delete :=
  calls.foldl apply (ofOrigin origin)

/-- What calls make of a removal: each part comes from the part that there was by the calls of its
group alone. -/
theorem after_eq (start : Delete) (calls : List Call) :
    start.after calls =
      { table := start.table
        filter :=
          { expr := (calls.filterMap Call.filter?).foldl Filter.joined start.filter.expr
            scope := (calls.filterMap Call.scope?).foldl Scope.apply start.filter.scope
            entity := start.filter.entity }
        allowsAll := (calls.filterMap Call.allowAll?).getLast?.getD start.allowsAll
        settings :=
          (calls.filterMap Call.settings?).foldl Settings.apply start.settings } := by
  induction calls using List.reverseRecOn with
  | nil => rfl
  | append_singleton earlier call ih =>
      have step : start.after (earlier ++ [call]) = (start.after earlier).apply call :=
        List.foldl_append ..
      rw [step, ih]
      simp only [List.filterMap_append, List.foldl_append, List.getLast?_append]
      cases call with
      | filter expr => rfl
      | scope call => cases call <;> rfl
      | settings call => cases call <;> rfl
      | allowAll allowed => rfl

/-- What a removal is made of: each part comes from the calls of its group alone. -/
theorem built_eq (origin : Origin) (calls : List Call) :
    built origin calls =
      { table := origin.tableName
        filter :=
          { expr := (calls.filterMap Call.filter?).foldl Filter.joined none
            scope := (calls.filterMap Call.scope?).foldl Scope.apply .empty
            entity := origin.entity? }
        allowsAll := (calls.filterMap Call.allowAll?).getLast?.getD false
        settings := (calls.filterMap Call.settings?).foldl Settings.apply .standard } := by
  change (ofOrigin origin).after calls = _
  rw [after_eq]
  cases origin <;> rfl

end Delete

end QueryText
