import QueryText.Clause

/-!
# Filters

The predicate of a statement under construction, with the captured variables it reads and the
entity it is about. Several predicates are joined by AND in the order in which they were added.
-/

set_option autoImplicit false

namespace QueryText

structure Filter where
  expr : Option Expr := none
  scope : Scope := .empty
  entity : Option Entity := none

namespace Filter

def ofEntity (entity : Entity) : Filter :=
  { entity := some entity }

def and (filter : Filter) (expr : Expr) : Filter :=
  { filter with
    expr :=
      match filter.expr with
      | some current => some (.and current expr)
      | none => some expr }

def bind (filter : Filter) (name : String) (value : Value) : Filter :=
  { filter with scope := filter.scope.bind name value }

def withScope (filter : Filter) (scope : Scope) : Filter :=
  { filter with scope }

def context (filter : Filter) (settings : Settings) : Context :=
  settings.context (some filter.scope) filter.entity

def fragment? (filter : Filter) (settings : Settings) :
    Except RenderError (Option Fragment) :=
  match filter.expr with
  | some expr => do
    let fragment ← (filter.context settings).filterFragment expr
    return some (.fixed " " :: fragment)
  | none => .ok none

end Filter

end QueryText
