import QueryText.Mapping.Grammar.Member

/-!
# Declarations

Declarations in standard form. Some that a compiler would reject are kept as they are written, such
as a constant without a value.
-/

set_option autoImplicit false

namespace QueryText.Mapping.Grammar

open Rewriter View

/-!
## Traits, implementations and modules
-/

def traitItem (rules : Rules) : Rewriter Unit := do
  repeated (keepIf (anyWordOf ["unsafe", "auto"]) 1)
  keepWord "trait"
  typeHead rules
  if ← keepMark? "=" then
    boundList rules
    discard (conditions rules)
    keepMark ";"
  else
    discard (declaredBounds rules)
    discard (conditions rules)
    members rules (traitMember rules)

/-- The trait of an implementation for a type. The answer is whether it is a path. -/
def implementedTrait? (rules : Rules) : Rewriter Bool := do
  let named := any [name, except pathStart (mark "<")]
  let plain ← sees named
  let path : Rewriter Unit := do
    guard plain
    typePath rules
    guard (← sees (word "for"))
  (do path; return true) <|> (do rules (.type true); return false)

/-- An implementation. The answer is whether it is kept as it is: one with a visibility, for
constants, or of something that is no trait. -/
def implementation (rules : Rules) (visible : Bool) : Rewriter Bool := do
  repeated (keepIf (anyWordOf ["default", "unsafe"]) 1)
  keepWord "impl"
  if ← sees parameters then discard (declaredParameters rules)
  let constant ← keepIf (any [word "const", all [mark "?", second (word "const")]]) 1
  if constant then discard (keepWord? "const")
  discard (keepIf (except (mark "!") (second (group '\x7b'))) 1)
  let path ← implementedTrait? rules
  let forType ← keepWord? "for"
  if forType then rules (.type true)
  discard (conditions rules)
  members rules (implementationMember rules)
  return visible || constant || (forType && !path)

def foreignItem (rules : Rules) : Rewriter Unit := do
  discard (keepWord? "unsafe")
  convention
  members rules (foreignMember rules)

def moduleItem (rules : Rules) : Rewriter Unit := do
  discard (keepWord? "unsafe")
  keepWord "mod"
  keepAnyWord
  unless ← keepMark? ";" do members rules (rules .item)

def upToSemicolon : Rewriter Unit := do
  repeated do
    if ← sees (any [ending, mark ";"]) then return false
    keepTree
    return true
  keepMark ";"

/-!
## Declarations
-/

/-- What the view says, at once or behind the word that marks a declaration as unsafe. -/
def behindUnsafe (view : View) : View :=
  any [view, all [word "unsafe", second view]]

def rootedGroup (ahead : List Lexeme) : Bool :=
  (ahead.zip (ahead.drop 1)).any fun (lexeme, next) =>
    (lexeme.source == ['\x7b'] || lexeme.token == .punctuation ',') &&
      next.token == .punctuation ':'

/-- A declaration after its visibility. The answer is whether it is kept as it is. -/
def itemAfterVisibility (rules : Rules) (visible : Bool) : Rewriter Bool := do
  if ← sees functionAhead then
    signature rules
    return !(← body rules)
  if ← sees (word "use") then
    let (_, path) ← aside upToSemicolon
    write path
    return rootedGroup path
  if ← sees (word "static") then return (← staticItem rules).irregular
  if ← sees (word "const") then return (← constant rules).irregular
  if ← sees (word "type") then return (← typeAlias rules).irregular
  if ← sees (behindUnsafe (any [word "impl", except (word "default") (second (mark "!"))])) then
    return ← implementation rules visible
  if ← keepWord? "macro" then
    keepAnyWord
    if ← sees (group '(') then keepTree
    keepTree
    return true
  if ← sees (all [word "extern", second (word "crate")]) then upToSemicolon
  else if ← sees (behindUnsafe (word "extern")) then foreignItem rules
  else if ← sees (behindUnsafe (word "mod")) then moduleItem rules
  else if ← sees (any [word "struct", all [word "union", second name]]) then recordItem rules
  else if ← sees (word "enum") then enumeration rules
  else if ← sees (behindUnsafe (any [word "trait", all [word "auto", second (word "trait")]])) then
    traitItem rules
  else macroMember
  return false

def item (rules : Rules) : Rewriter Unit :=
  orAsWritten do
    attributes rules
    let visible ← visibility
    itemAfterVisibility rules visible

end QueryText.Mapping.Grammar
