import QueryText.Mapping.Grammar.Expression

/-!
# Blocks

Blocks in standard form. A statement is a declaration, a binding, a macro or an expression.
-/

set_option autoImplicit false

namespace QueryText.Mapping.Grammar

open Rewriter View

/-!
## Kinds of statements
-/

def macroItem : View :=
  plainPath (all [mark "!", second (any [name, word "try"])])

def macroStatement : View :=
  plainPath (all [mark "!", except (second (group '\x7b')) (third blockTrailer)])

def itemStart : View :=
  let function := anyWordOf ["unsafe", "extern", "fn"]
  let literal := any [group '\x7b', anyWordOf ["static", "move"], mark "|"]
  let asynchronous := except (second (word "async")) (third function)
  any [anyWordOf ["pub", "extern", "use", "fn", "mod", "type", "struct", "enum", "trait", "impl",
      "macro"],
    except (word "crate") (second (mark "::")),
    all [word "static", second (any [word "mut", name])],
    except (word "const") (any [second literal, asynchronous]),
    except (word "unsafe") (second (group '\x7b')),
    all [word "async", second function],
    all [word "union", second name],
    all [word "auto", second (word "trait")],
    all [word "default", second (anyWordOf ["unsafe", "impl"])],
    macroItem]

/-!
## Statements
-/

def binding (rules : Rules) : Rewriter Unit := do
  keepWord "let"
  rules .pattern
  if ← keepMark? ":" then rules (.type true)
  if ← keepMark? "=" then
    rules (.expression true)
    if ← keepWord? "else" then rules .block
  keepMark ";"

def statement (rules : Rules) : Rewriter Unit := do
  if ← keepMark? ";" then return
  if ← sees (behindAttributes itemStart) then rules .item
  else if ← sees (behindAttributes macroStatement) then
    attributes rules
    path rules false
    keepMark "!"
    keepTree
    discard (keepMark? ";")
  else if ← sees (behindAttributes (word "let")) then
    attributes rules
    binding rules
  else
    rules .standalone
    discard (keepMark? ";")

def block (rules : Rules) : Rewriter Unit :=
  inside do
    innerAttributes rules
    repeated do
      if ← sees ending then return false
      statement rules
      return true

end QueryText.Mapping.Grammar
