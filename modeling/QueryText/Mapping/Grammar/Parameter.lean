import QueryText.Mapping.Grammar.Argument
import QueryText.Mapping.Grammar.Rules

/-!
# Parameters and their bounds

What a declaration says about its parameters, in angle brackets behind its name and behind the word
`where`. In standard form lifetimes go first, and a list that is empty is left out.
-/

set_option autoImplicit false

namespace QueryText.Mapping.Grammar

open Rewriter View

/-!
## Bounds
-/

def boundsEnd : View :=
  any [ending, anyMark [",", ">", "=", ";"], except (mark ":") (mark "::"), group '\x7b',
    word "where"]

/-- Bounds with plus signs between them; one may follow the last. -/
def boundList (rules : Rules) : Rewriter Unit :=
  repeated do
    if ← sees boundsEnd then return false
    rules .bound
    keepMark? "+"

/-- A colon and bounds, if a colon is ahead. Without bounds the colon is left out. The answer is
whether it was ahead. -/
def declaredBounds (rules : Rules) : Rewriter Bool := do
  if ← sees (mark ":") then
    let colon ← take 1
    let (_, bounds) ← aside (boundList rules)
    unless bounds.isEmpty do write (colon ++ bounds)
    return true
  return false

/-!
## Parameters
-/

/-- An argument that is a constant: a literal, a name or a block. -/
def constantArgument (rules : Rules) : Rewriter Unit := do
  if ← sees literal then keepLiteral
  else if ← sees (group '\x7b') then rules .block
  else keepAnyWord

/-- One parameter. The answer is whether it is a lifetime. -/
def parameter (rules : Rules) : Rewriter Bool := do
  attributes rules
  if ← lifetime? then
    discard (declaredBounds rules)
    return true
  if ← keepWord? "const" then
    keepAnyWord
    keepMark ":"
    rules (.type true)
    if ← keepMark? "=" then constantArgument rules
  else
    keepAnyWord
    discard (declaredBounds rules)
    if ← keepMark? "=" then rules (.type true)
  return false

/-- Parameters in angle brackets, if there are any. The answer is whether the brackets are ahead,
which are left out if nothing is between them. -/
def declaredParameters (rules : Rules) : Rewriter Bool := do
  if ← sees (mark "<") then
    let parameters ← Argument.readAll (parameter rules)
    unless parameters.isEmpty do write (Argument.bracketed parameters)
    return true
  return false

/-- The parameters that are bound in front of a type, a bound or a function literal, in the order
in which they are written. The answer is whether they are ahead. -/
def binder (rules : Rules) : Rewriter Bool := do
  if ← keepWord? "for" then
    keepMark "<"
    repeated do
      if ← sees (mark ">") then return false
      discard (parameter rules)
      keepMark? ","
    keepMark ">"
    return true
  return false

/-!
## Conditions
-/

/-- One condition: bounds on a lifetime or on a type. -/
def condition (rules : Rules) : Rewriter Unit := do
  unless ← keepIf (all [lifetime, second (mark ":")]) 2 do
    discard (binder rules)
    rules (.type true)
  keepMark ":"
  boundList rules

/-- The word `where` and conditions, if the word is ahead. Without conditions the word is left out.
The answer is whether it was ahead. -/
def conditions (rules : Rules) : Rewriter Bool := do
  if ← sees (word "where") then
    let start ← take 1
    let (_, list) ← aside do
      repeated do
        if ← sees boundsEnd then return false
        condition rules
        keepMark? ","
    unless list.isEmpty do write (start ++ list)
    return true
  return false

end QueryText.Mapping.Grammar
