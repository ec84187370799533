import QueryText.Mapping.Grammar.Operand

/-!
# Expressions

Expressions in standard form. How tightly an operator binds makes no difference to the text, so an
expression is a chain of operands with operators between them.
-/

set_option autoImplicit false

namespace QueryText.Mapping.Grammar

open Rewriter View

/-!
## Chains
-/

def operators : List String :=
  ["<<=", ">>=", "+=", "-=", "*=", "/=", "%=", "^=", "&=", "|=", "&&", "||", "<<", ">>", "==",
   "<=", "!=", ">=", "+", "-", "*", "/", "%", "^", "&", "|", "<", ">"]

def chain (rules : Rules) (records : Bool) : Rewriter Unit :=
  repeated do
    let draft ← get
    match operators.find? fun operator => mark operator draft.ahead with
    | some operator =>
      keep operator.length
      rules (.operand records)
      return true
    | none =>
      if ← keepIf (except (mark "=") (mark "=>")) 1 then rules (.operand records)
      else if ← sees (mark "..") then range rules records
      else if ← keepWord? "as" then rules (.type false)
      else return false
      return true

def expression (rules : Rules) (records : Bool) : Rewriter Unit := do
  rules (.operand records)
  chain rules records

/-!
## Expressions that stand by themselves
-/

/-- What stands behind a block that makes it an operand where a block is a statement by itself. -/
def blockTrailer : View :=
  any [mark "?", except (mark ".") (mark "..")]

/-- An expression where one that ends behind a block stands by itself. An operand that takes no
attributes loses them here. -/
def standalone (rules : Rules) : Rewriter Unit := do
  let (_, before) ← aside (attributes rules)
  unless ← sees withoutAttributes do write before
  if ← blockLike? rules then
    if ← sees blockTrailer then
      trailers rules
      chain rules true
  else expression rules true

end QueryText.Mapping.Grammar
