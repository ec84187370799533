import QueryText.Mapping.Grammar.Definition

/-!
# Members

The declarations inside of traits, of implementations and of foreign blocks. Some that a compiler
would reject are kept as they are written, such as a method without a body.
-/

set_option autoImplicit false

namespace QueryText.Mapping.Grammar

open Rewriter View

def members (rules : Rules) (member : Rewriter Unit) : Rewriter Unit :=
  inside do
    innerAttributes rules
    repeated do
      if ← sees ending then return false
      member
      return true

def macroMember : Rewriter Unit := do
  repeated do
    if ← keepIf anyWord 1 then return true
    keepMark? "::"
  keepMark "!"
  discard (keepIf anyWord 1)
  keepTree
  discard (keepMark? ";")

def traitMember (rules : Rules) : Rewriter Unit :=
  orAsWritten do
    attributes rules
    let visible ← visibility
    let optional ← keepWord? "default"
    let strange ←
      if ← sees functionAhead then
        signature rules
        discard (body rules)
        pure false
      else if ← sees (word "const") then
        pure (← constant rules).generic
      else if ← sees (word "type") then
        discard (typeAlias rules)
        pure false
      else
        macroMember
        pure false
    return visible || optional || strange

def implementationMember (rules : Rules) : Rewriter Unit :=
  orAsWritten do
    attributes rules
    discard visibility
    discard (keepIf (except (word "default") (second (mark "!"))) 1)
    if ← sees functionAhead then
      signature rules
      return !(← body rules)
    else if ← sees (word "const") then
      return (← constant rules).irregular
    else if ← sees (word "type") then
      return (← typeAlias rules).irregular
    else
      macroMember
      return false

def foreignMember (rules : Rules) : Rewriter Unit :=
  orAsWritten do
    attributes rules
    discard visibility
    let safe ← sees safeFunctionAhead
    if safe || (← sees functionAhead) then
      signature rules
      return (← body rules) || safe
    else if ← sees (any [word "static", second (word "static")]) then
      let marked ← keepIf (anyWordOf ["unsafe", "safe"]) 1
      return (← staticItem rules).valued || marked
    else if ← sees (word "type") then
      let form ← typeAlias rules
      return form.bounded || form.defined
    else
      macroMember
      return false

end QueryText.Mapping.Grammar
