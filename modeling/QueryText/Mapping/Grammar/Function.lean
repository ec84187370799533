import QueryText.Mapping.Grammar.Path

/-!
# Functions and values

Declarations of functions, constants and static values in standard form.
-/

set_option autoImplicit false

namespace QueryText.Mapping.Grammar

open Rewriter View

/-!
## Functions
-/

def afterWord (expected : String) (ahead : List Lexeme) : List Lexeme :=
  if word expected ahead then ahead.drop 1 else ahead

def afterConvention (ahead : List Lexeme) : List Lexeme :=
  if word "extern" ahead then
    let rest := ahead.drop 1
    if text rest then rest.drop 1 else rest
  else ahead

def afterStage (ahead : List Lexeme) : List Lexeme :=
  afterWord "async" (afterWord "const" ahead)

def functionAhead : View :=
  fun ahead => word "fn" (afterConvention (afterWord "unsafe" (afterStage ahead)))

/-- A function that is declared to be safe, which foreign functions can be. -/
def safeFunctionAhead : View :=
  fun ahead =>
    word "safe" (afterStage ahead) &&
      word "fn" (afterConvention (afterWord "safe" (afterStage ahead)))

def receiver (rules : Rules) : Rewriter Unit := do
  let reference ← keepMark? "&"
  if reference then discard lifetime?
  discard (keepWord? "mut")
  keepWord "self"
  if !reference && (← keepMark? ":") then rules (.type true)

/-- One parameter of a function, or the dots at their end. A generic type alone is a parameter
without a name. -/
def parameterDeclaration (rules : Rules) : Rewriter Unit := do
  attributes rules
  unless ← keepMark? "..." do
    receiver rules <|> do
      if ← sees (all [name, second (mark "<")]) then
        write [.word ['_'], .punctuation ':']
        rules (.type true)
      else
        rules .pattern
        keepMark ":"
        unless ← keepMark? "..." do rules (.type true)

def signature (rules : Rules) : Rewriter Unit := do
  repeated (keepIf (anyWordOf ["const", "async", "unsafe", "safe"]) 1)
  convention
  keepWord "fn"
  keepAnyWord
  discard (declaredParameters rules)
  inside (separated (parameterDeclaration rules))
  result rules true
  discard (conditions rules)

/-- The body of a function, or the semicolon in its place. The answer is whether there is one. -/
def body (rules : Rules) : Rewriter Bool := do
  if ← keepMark? ";" then return false
  rules .block
  return true

/-!
## Values
-/

/-- The value of a constant, if it has one. The answer is whether it has. -/
def value (rules : Rules) : Rewriter Bool := do
  if ← keepMark? "=" then
    rules (.expression true)
    return true
  return false

structure ValueForm where
  generic : Bool
  typed : Bool
  valued : Bool

def constant (rules : Rules) : Rewriter ValueForm := do
  keepWord "const"
  keepAnyWord
  let parameters ← declaredParameters rules
  keepMark ":"
  rules (.type true)
  let valued ← value rules
  let conditions ← conditions rules
  keepMark ";"
  return { generic := parameters || conditions, typed := true, valued }

def staticItem (rules : Rules) : Rewriter ValueForm := do
  keepWord "static"
  discard (keepWord? "mut")
  keepAnyWord
  let typed ← keepMark? ":"
  if typed then rules (.type true)
  let valued ← value rules
  keepMark ";"
  return { generic := false, typed, valued }

/-- A value that is no member: it is in standard form only with a type and a value and without
parameters. -/
def ValueForm.irregular (form : ValueForm) : Bool :=
  form.generic || !form.typed || !form.valued

end QueryText.Mapping.Grammar
