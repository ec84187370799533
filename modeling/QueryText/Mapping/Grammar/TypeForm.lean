import QueryText.Mapping.Grammar.Path

/-!
# Types

Types and their bounds in standard form. Arguments of macros are no types and are kept.
-/

set_option autoImplicit false

namespace QueryText.Mapping.Grammar

open Rewriter View

/-!
## Bounds
-/

def capturedParameters : Rewriter Unit := do
  keepWord "use"
  let parameters ← Argument.readAll do
    if ← lifetime? then return true
    keepAnyWord
    return false
  write (Argument.bracketed parameters)

/-- A bound by a trait. The answer is whether it holds for constants, in which case it is kept as
it is. -/
def traitBound (rules : Rules) : Rewriter Bool := do
  let bound ← binder rules
  let constant ←
    if ← sees (group '[') then
      keepTree
      pure true
    else keepWord? "const"
  if (← keepMark? "?") && !bound then discard (binder rules)
  namePath rules true
  if ← sees parenthesized then roundArguments rules
  return constant

def bound (rules : Rules) : Rewriter Unit := do
  if ← lifetime? then return
  if ← sees (word "use") then capturedParameters
  else orAsWritten do
    if ← sees (group '(') then inside (traitBound rules) else traitBound rules

def boundStart : View :=
  any [anyWord, mark "::", mark "?", lifetime, group '(', group '[']

/-- More bounds after plus signs; a plus sign may follow the last. -/
def moreBounds (rules : Rules) : Rewriter Unit :=
  repeated do
    if ← keepMark? "+" then
      if ← sees boundStart then
        bound rules
        return true
    return false

/-- Bounds of which there is one at least, and more if `sums` is set. -/
def bounds (rules : Rules) (sums : Bool) : Rewriter Unit := do
  bound rules
  if sums then moreBounds rules

/-!
## Functions
-/

/-- A parameter of a function type. A receiver that may be changed is kept as it is. -/
def typeParameter (rules : Rules) : Rewriter Unit :=
  orAsWritten do
    let changed ← keepIf (all [word "mut", second (word "self")]) 2
    let colon := except (mark ":") (mark "::")
    if changed then
      if ← keepIf colon 1 then rules (.type true)
    else
      discard (keepIf (all [any [name, anyWordOf ["_", "self"]], second colon]) 2)
      rules (.type true)
    return changed

/-- The dots at the end of the parameters of a function that takes any number of them. -/
def dots : View :=
  any [mark "...", all [any [name, word "_"], second (mark ":"), third (mark "...")]]

def functionType (rules : Rules) : Rewriter Unit := do
  discard (keepWord? "unsafe")
  convention
  keepWord "fn"
  inside do
    separated do
      attributes rules
      if ← sees dots then
        discard (keepIf anyWord 2)
        keepMark "..."
      else typeParameter rules
  result rules false

/-!
## Types
-/

/-- Types or bounds in parentheses, and more bounds after them if the type may be a sum. A bound
that may fail to hold loses a second pair of parentheses in a sum. -/
def roundType (rules : Rules) (sums : Bool) : Rewriter Unit := do
  let optional := all [group '(', within (mark "?")]
  if ← sees optional then
    discard (inside (traitBound rules))
    moreBounds rules
  else
    let doubled := within (all [optional, second ending])
    if sums && (← sees (all [doubled, second (mark "+")])) then
      inside do
        let (_, lexemes) ← aside (inside (traitBound rules))
        write (lexemes.drop 1).dropLast
    else inside do
      if ← sees lifetime then bounds rules true else separated (rules (.type true))
    if sums then moreBounds rules

/-- A type that begins with a path: the path, a macro with this name, or a sum of bounds. -/
def namedType (rules : Rules) (bound sums : Bool) : Rewriter Unit := do
  let qualified ← sees (mark "<")
  typePath rules
  unless qualified do
    if !bound && (← keepIf macroMark 1) then keepTree
    else if sums then moreBounds rules

/-- A type in square brackets: a slice or an array with its length. -/
def squareType (rules : Rules) : Rewriter Unit :=
  inside do
    rules (.type true)
    if ← keepMark? ";" then rules (.expression true)

def typeForm (rules : Rules) (sums : Bool) : Rewriter Unit := do
  let bound ← binder rules
  if ← sees (group '(') then roundType rules sums
  else if ← sees (anyWordOf ["fn", "unsafe", "extern"]) then functionType rules
  else if ← sees (any [name, pathStart]) then namedType rules bound sums
  else if ← sees (word "dyn") then
    orAsWritten do
      keep 1
      let starred ← keepMark? "*"
      bounds rules sums
      return starred
  else if ← sees (group '[') then squareType rules
  else if ← keepMark? "*" then
    keepAnyWord
    rules (.type false)
  else if ← keepMark? "&" then
    discard lifetime?
    discard (keepWord? "mut")
    rules (.type false)
  else if ← keepMark? "!" then return
  else if ← keepWord? "impl" then bounds rules sums
  else if ← keepWord? "_" then return
  else
    guard (← sees lifetime)
    bounds rules true

end QueryText.Mapping.Grammar
