import QueryText.Mapping.Grammar.Path

/-!
# Patterns

Patterns in standard form. A closed range is written with two points and an equals sign, for which
three points may stand as well.
-/

set_option autoImplicit false

namespace QueryText.Mapping.Grammar

open Rewriter View

/-!
## Ranges
-/

def rangeMark : Rewriter Unit := do
  if ← keepMark? "..=" then return
  if ← sees (mark "...") then
    discard (take 3)
    write (['.', '.', '='].map Lexeme.punctuation)
  else keepMark ".."

/-- The upper end of a range, if there is one, or a value that a pattern begins with. -/
def rangeEnd (rules : Rules) : Rewriter Unit := do
  let absent := any [ending, anyMark ["|", "=", ",", ";"], except (mark ":") (mark "::"), word "if"]
  unless ← sees absent do
    if ← sees literal then keepLiteral
    else if ← keepWord? "const" then rules .block
    else path rules false

def rangeRest (rules : Rules) : Rewriter Unit := do
  if ← sees (mark "..") then
    rangeMark
    rangeEnd rules

/-!
## Patterns with parts
-/

/-- A pattern for one field of a record, or the points that stand for the others. -/
def fieldPattern (rules : Rules) : Rewriter Unit := do
  attributes rules
  unless ← keepMark? ".." do
    repeated (keepIf (anyWordOf ["box", "ref", "mut"]) 1)
    member
    if ← keepMark? ":" then rules .alternatives

def pathPattern (rules : Rules) : Rewriter Unit := do
  path rules false
  if ← keepIf macroMark 1 then keepTree
  else if ← sees (group '\x7b') then inside (separated (fieldPattern rules))
  else if ← sees (group '(') then inside (separated (rules .alternatives))
  else rangeRest rules

def pathPatternStart : View :=
  let more := any [anyMark ["::", "!", ".."], group '\x7b', group '(']
  any [all [name, second more], all [word "self", second (mark "::")],
    except pathStart (word "self")]

/-!
## Patterns
-/

def pattern (rules : Rules) : Rewriter Unit := do
  if ← sees pathPatternStart then pathPattern rules
  else if ← keepWord? "_" then return
  else if ← sees (word "box") then
    asWritten do
      keep 1
      rules .pattern
  else if ← sees (any [mark "-", literal, word "const"]) then
    rangeEnd rules
    rangeRest rules
  else if ← sees (any [anyWordOf ["ref", "mut", "self"], name]) then
    discard (keepWord? "ref")
    discard (keepWord? "mut")
    keepAnyWord
    if ← keepMark? "@" then rules .pattern
  else if ← keepMark? "&" then
    discard (keepWord? "mut")
    rules .pattern
  else if ← sees (any [group '(', group '[']) then inside (separated (rules .alternatives))
  else rangeRest rules

/-- Patterns of which one has to match. A bar may stand in front of the first. -/
def alternatives (rules : Rules) : Rewriter Unit := do
  discard (keepMark? "|")
  rules .pattern
  repeated do
    if ← keepIf (except (mark "|") (anyMark ["||", "|="])) 1 then
      rules .pattern
      return true
    return false

end QueryText.Mapping.Grammar
