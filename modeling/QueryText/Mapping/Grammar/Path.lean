import QueryText.Mapping.Grammar.Parameter

/-!
# Paths

Names between double colons, with arguments. In a type the arguments follow a name at once, or
after two colons; in an expression the colons are needed, since the bracket could be a comparison.
-/

set_option autoImplicit false

namespace QueryText.Mapping.Grammar

open Rewriter View

/-!
## Arguments
-/

/-- One argument: a lifetime, a constant, or a type, which may name a parameter that it is
for. The answer is whether it is a lifetime. -/
def argument (rules : Rules) : Rewriter Bool := do
  if ← keepIf (except lifetime (second (mark "+"))) 2 then return true
  let constant := any [literal, group '\x7b']
  if ← sees constant then
    constantArgument rules
    return false
  rules (.type true)
  if ← keepMark? "=" then
    if ← sees constant then constantArgument rules else rules (.type true)
  else if ← keepMark? ":" then boundList rules
  return false

/-- Arguments in angle brackets, lifetimes first. In a type, empty brackets give way to arguments
in parentheses. -/
def angleArguments (rules : Rules) (inType : Bool) : Rewriter Unit := do
  let colons ← if ← sees (mark "::") then take 2 else pure []
  let arguments ← Argument.readAll (argument rules)
  let replaced := inType && arguments.isEmpty && (← sees parenthesized)
  unless replaced do write (colons ++ Argument.bracketed arguments)

def result (rules : Rules) (sums : Bool) : Rewriter Unit := do
  if ← keepMark? "->" then rules (.type sums)

/-- Arguments in parentheses and the type of a result. Two colons in front are left out. -/
def roundArguments (rules : Rules) : Rewriter Unit := do
  if ← sees (mark "::") then discard (take 2)
  inside (separated (rules (.type true)))
  result rules false

/-!
## Names
-/

def segment (rules : Rules) (inType : Bool) : Rewriter Unit := do
  let plain ← sees (anyWordOf ["super", "self", "crate", "try"])
  keepAnyWord
  let direct := except (mark "<") (mark "<=")
  let opening := any [all [mark "::", third (mark "<")], if inType then direct else fun _ => false]
  if !plain && (← sees opening) then angleArguments rules inType

def moreSegments (rules : Rules) (inType : Bool) : Rewriter Unit :=
  repeated do
    if ← keepIf (except (mark "::") parenthesized) 2 then
      segment rules inType
      return true
    return false

def namePath (rules : Rules) (inType : Bool) : Rewriter Unit := do
  discard (keepMark? "::")
  segment rules inType
  moreSegments rules inType

def path (rules : Rules) (inType : Bool) : Rewriter Unit := do
  if ← keepMark? "<" then
    rules (.type true)
    if ← keepWord? "as" then namePath rules true
    keepMark ">"
    keepMark "::"
    segment rules inType
    moreSegments rules inType
  else namePath rules inType

def pathStart : View :=
  any [anyWordOf ["super", "self", "Self", "crate"], mark "::", mark "<"]

def typePath (rules : Rules) : Rewriter Unit := do
  path rules true
  repeated do
    if ← sees parenthesized then
      roundArguments rules
      moreSegments rules true
      return true
    return false

def macroMark : View :=
  except (mark "!") (mark "!=")

end QueryText.Mapping.Grammar
