import QueryText.Mapping.Rewriter

/-!
# Parts of declarations

The parts that hold each other: a type may hold an expression as its length, which may hold blocks
with declarations, which hold types. The rules for one part are given the rules for the parts
inside of it.

The standard form of a part differs from how it is written in few places, which the rules name.
All else is kept.
-/

set_option autoImplicit false

namespace QueryText.Mapping

inductive Part where
  /-- A type, which several bounds may make up if `sums` is set. -/
  | type (sums : Bool)
  | bound
  | pattern
  | alternatives
  /-- An expression. Without `records` a brace ends it instead of giving the fields of a record. -/
  | expression (records : Bool)
  | operand (records : Bool)
  | standalone
  | block
  | item
  deriving DecidableEq

abbrev Rules : Type :=
  Part → Rewriter Unit

namespace Grammar

open Rewriter View

/-!
## Attributes
-/

/-- An attribute. Its value is an expression, and its arguments are kept as they are. -/
def anyAttribute (rules : Rules) : Rewriter Unit := do
  keepMark "#"
  discard (keepMark? "!")
  inside do
    repeated do
      if ← keepIf anyWord 1 then return true
      keepMark? "::"
    if ← keepMark? "=" then rules (.expression true) else keepRest

def attributes (rules : Rules) : Rewriter Unit :=
  repeated do
    if ← sees (mark "#") then
      anyAttribute rules
      return true
    return false

def innerAttributes (rules : Rules) : Rewriter Unit :=
  repeated do
    if ← sees (all [mark "#", second (mark "!")]) then
      anyAttribute rules
      return true
    return false

/-- What follows the attributes ahead, which are skipped in at most `fuel` steps. -/
def afterAttributes : Nat → List Lexeme → List Lexeme
  | 0, ahead => ahead
  | fuel + 1, ahead =>
    if mark "#" ahead then afterAttributes fuel (afterTree (ahead.drop 1)) else ahead

def behindAttributes (view : View) : View :=
  fun ahead => view (afterAttributes ahead.length ahead)

/-!
## Small parts
-/

/-- The mark of visibility. The answer is whether there is one. -/
def visibility : Rewriter Bool := do
  if ← keepWord? "pub" then
    let restricted := any [all [anyWordOf ["crate", "self", "super"], second ending], word "in"]
    if ← sees (all [group '(', within restricted]) then keepTree
    return true
  return false

def convention : Rewriter Unit := do
  if ← keepWord? "extern" then discard (keepIf text 1)

/-- The digits of an index in plain decimal. Two indices with a point between them can look like
one number. -/
def indexDigits (source : List Char) : List Char :=
  let whole := plainNumber (source.takeWhile (· != '.'))
  match source.dropWhile (· != '.') with
  | point :: rest => whole ++ point :: plainNumber rest
  | [] => whole

def member : Rewriter Unit := do
  let lexemes ← take 1
  write (lexemes.map fun lexeme =>
    if lexeme.token = .literal then { lexeme with source := indexDigits lexeme.source } else lexeme)

def lifetime? : Rewriter Bool :=
  keepIf lifetime 2

end Grammar

end QueryText.Mapping
