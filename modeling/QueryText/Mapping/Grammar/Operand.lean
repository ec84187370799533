import QueryText.Mapping.Grammar.Branch

/-!
# Operands

Operands in standard form: expressions without binary operators, with signs in front and calls,
fields and the like behind. An index is written in plain decimal.
-/

set_option autoImplicit false

namespace QueryText.Mapping.Grammar

open Rewriter View

/-!
## Jumps and ranges
-/

def expressionStart : View :=
  any [anyWord, anyGroup, literal, lifetime, anyMark ["..", "::", "#"],
    except (mark "!") (mark "!="), except (mark "-") (anyMark ["-=", "->"]),
    except (mark "*") (mark "*="), except (mark "|") (mark "|="), except (mark "&") (mark "&="),
    except (mark "<") (anyMark ["<=", "<<="])]

/-- The value of a jump, if it has one. It can be a record wherever the jump stands. -/
def jumpValue (rules : Rules) : Rewriter Unit := do
  if ← sees expressionStart then rules (.expression true)

def openRangeEnd (records : Bool) : View :=
  any [ending, except (mark ".") (mark ".."), word "as",
    anyMark [",", ";", "?", "=>", "=", "+", "/", "%", "^", ">", "<=", "!=", "-=", "*=", "&=", "|=",
      "<<="],
    if records then fun _ => false else group '\x7b']

def range (rules : Rules) (records : Bool) : Rewriter Unit := do
  let closed ← keepMark? "..="
  unless closed do keepMark ".."
  if closed || !(← sees (openRangeEnd records)) then rules (.operand records)

/-!
## Operands without signs
-/

def fieldValue (rules : Rules) : Rewriter Unit := do
  if ← keepMark? ".." then
    unless ← sees ending do rules (.expression true)
  else
    attributes rules
    member
    if ← keepMark? ":" then rules (.expression true)

/-- An operand that begins with a path: a macro, a record, or the path. -/
def pathOperand (rules : Rules) (records : Bool) : Rewriter Unit := do
  path rules false
  if ← keepIf macroMark 1 then keepTree
  else if records && (← sees (group '\x7b')) then inside (separated (fieldValue rules))

def builtin : View :=
  all [word "builtin", second (mark "#")]

def atom (rules : Rules) (records : Bool) : Rewriter Unit := do
  if ← keepIf plainLiteral 1 then return
  let asynchronous := any [second (group '\x7b'), all [second (word "move"), third (group '\x7b')]]
  if ← keepIf (all [word "async", asynchronous]) 1 then
    discard (keepWord? "move")
    rules .block
  else if ← sees functionStart then functionLiteral rules records
  else if ← keepIf builtin 3 then keepTree
  else if ← blockLike? rules then return
  else if ← sees (any [name, pathStart, word "try"]) then pathOperand rules records
  else if ← sees (group '(') then inside (separated (rules (.expression true)))
  else if ← sees (group '[') then inside (separatedBy [",", ";"] (rules (.expression true)))
  else if ← keepWord? "break" then
    discard lifetime?
    unless !records && (← sees (group '\x7b')) do jumpValue rules
  else if ← keepWord? "continue" then discard lifetime?
  else if ← sees (anyWordOf ["return", "yield"]) then
    keep 1
    jumpValue rules
  else if ← sees (word "become") then
    asWritten do
      keep 1
      rules (.expression true)
  else if ← keepWord? "let" then
    rules .alternatives
    keepMark "="
    rules (.operand records)
  else if ← keepWord? "_" then return
  else range rules records

/-!
## Signs and trailers
-/

def pointedNumber : View
  | { token := .literal, source, .. } :: _ => source.getLast? == some '.'
  | _ => false

/-- What stands behind an operand: calls, fields, methods, indices and marks of failure. -/
def trailers (rules : Rules) : Rewriter Unit :=
  repeated do
    if ← sees (group '(') then inside (separated (rules (.expression true)))
    else if ← sees (group '[') then inside (rules (.expression true))
    else if ← keepMark? "?" then return true
    else if ← keepIf (except (mark ".") (mark "..")) 1 then
      if ← sees pointedNumber then member
      member
      if ← sees (mark "::") then angleArguments rules false
    else return false
    return true

def trailer : View :=
  any [group '(', group '[', mark "?", except (mark ".") (mark "..")]

def withoutAttributes : View :=
  any [word "become", all [builtin, fun ahead => !trailer (afterTree (ahead.drop 3))]]

/-- An operand. Attributes of an operand that takes none are kept as they are. -/
def operand (rules : Rules) (records : Bool) : Rewriter Unit := do
  let bare ← sees (behindAttributes withoutAttributes)
  if bare then asWritten (attributes rules) else attributes rules
  if ← keepMark? "&" then
    let address := all [word "raw", second (anyWordOf ["mut", "const"])]
    unless ← keepIf address 2 do discard (keepWord? "mut")
    rules (.operand records)
  else if ← keepIf (anyMark ["*", "!", "-"]) 1 then rules (.operand records)
  else
    atom rules records
    trailers rules

end QueryText.Mapping.Grammar
