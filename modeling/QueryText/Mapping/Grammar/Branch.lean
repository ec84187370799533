import QueryText.Mapping.Grammar.Pattern
import QueryText.Mapping.Grammar.TypeForm

/-!
# Branches, loops and literals of functions

The expressions that hold blocks. A block ends some of them, so that nothing has to stand behind
them where they are statements.
-/

set_option autoImplicit false

namespace QueryText.Mapping.Grammar

open Rewriter View

/-!
## Literals of functions
-/

/-- A parameter of a function literal. A boxed pattern without a type loses its attributes. -/
def functionParameter (rules : Rules) : Rewriter Unit := do
  let (_, before) ← aside (attributes rules)
  let boxed ← sees (word "box")
  let (_, parameter) ← aside (rules .pattern)
  let typed ← sees (mark ":")
  write (if boxed && !typed then parameter else before ++ parameter)
  if typed then
    keep 1
    rules (.type true)

def functionLiteral (rules : Rules) (records : Bool) : Rewriter Unit := do
  discard (binder rules)
  repeated (keepIf (anyWordOf ["const", "static", "async", "move"]) 1)
  keepMark "|"
  repeated do
    if ← sees (mark "|") then return false
    functionParameter rules
    keepMark? ","
  keepMark "|"
  if ← keepMark? "->" then
    rules (.type true)
    rules .block
  else rules (.expression records)

def boundFunction : View :=
  fun ahead => word "for" ahead && parameters (ahead.drop 1)

def functionStart : View :=
  any [mark "|", anyWordOf ["move", "static"], boundFunction,
    except (word "const") (second (group '\x7b')),
    all [word "async", second (any [mark "|", word "move"])]]

/-!
## Branches and loops
-/

def choice (rules : Rules) : Rewriter Unit := do
  repeated do
    keepWord "if"
    rules (.expression false)
    rules .block
    if ← keepWord? "else" then
      if ← sees (word "if") then return true
      rules .block
    return false

def loop (rules : Rules) : Rewriter Unit := do
  if ← keepWord? "while" then rules (.expression false)
  else if ← keepWord? "for" then
    rules .alternatives
    keepWord "in"
    rules (.expression false)
  else discard (keepWord? "loop")
  rules .block

def arm (rules : Rules) : Rewriter Unit := do
  attributes rules
  rules .alternatives
  if ← keepWord? "if" then rules (.expression true)
  keepMark "=>"
  rules .standalone
  discard (keepMark? ",")

def arms (rules : Rules) : Rewriter Unit :=
  inside do
    innerAttributes rules
    repeated do
      if ← sees ending then return false
      arm rules
      return true

/-- An expression that ends behind a block, if one is ahead. The answer is whether it is. -/
def blockLike? (rules : Rules) : Rewriter Bool := do
  if ← sees (word "if") then choice rules
  else if ← sees (any [anyWordOf ["while", "loop"], except (word "for") boundFunction]) then
    loop rules
  else if ← keepWord? "match" then
    rules (.expression false)
    arms rules
  else if ← keepIf (any [word "unsafe", all [anyWordOf ["try", "const"], second (group '\x7b')]]) 1
  then rules .block
  else if ← sees (group '\x7b') then rules .block
  else if ← keepIf lifetime 2 then
    keepMark ":"
    loop rules
  else return false
  return true

end QueryText.Mapping.Grammar
