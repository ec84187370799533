import QueryText.Value.Arithmetic
import QueryText.Value.Comparison

/-!
# Predicate expressions

The tree of a query condition. Its leaves are literals, properties of the queried entity and
captured variables with their members.
-/

set_option autoImplicit false

namespace QueryText

/-!
## Text patterns
-/

inductive TextSearch where
  | startsWith
  | endsWith
  | contains
  /-- The text is a pattern itself. -/
  | pattern
  deriving DecidableEq

namespace TextSearch

/-- The pattern that searches for a text. Wildcards in the text keep their meaning. -/
def apply (kind : TextSearch) (text : String) : String :=
  match kind with
  | .startsWith => text ++ "%"
  | .endsWith => "%" ++ text
  | .contains => "%" ++ text ++ "%"
  | .pattern => text

def name : TextSearch → String
  | .startsWith => "StartsWith"
  | .endsWith => "EndsWith"
  | .contains => "Contains"
  | .pattern => "Pattern"

end TextSearch

/-!
## Trees
-/

inductive Expr where
  | literal (value : Value)
  /-- A property of the queried entity. -/
  | property (name : String)
  /-- A captured variable. -/
  | captured (name : String)
  /-- A member of a captured object. -/
  | field (base : Expr) (name : String)
  | compare (op : Relation) (left right : Expr)
  | and (left right : Expr)
  | or (left right : Expr)
  | not (operand : Expr)
  | like (kind : TextSearch) (operand pattern : Expr)
  | isNull (negated : Bool) (operand : Expr)
  | inList (negated : Bool) (operand : Expr) (items : List Expr)
  | arithmetic (op : ArithmeticOp) (left right : Expr)

namespace Expr

def kind : Expr → String
  | .literal _ => "Literal"
  | .property _ | .captured _ | .field _ _ => "Member"
  | .compare _ _ _ => "Compare"
  | .and _ _ => "And"
  | .or _ _ => "Or"
  | .not _ => "Not"
  | .like _ _ _ => "Like"
  | .isNull _ _ => "IsNull"
  | .inList _ _ _ => "In"
  | .arithmetic _ _ _ => "Arithmetic"

/-- The dotted path of a member. A base that is no member shows as its kind. -/
def path : Expr → String
  | .property name | .captured name => name
  | .field base name => base.path ++ "." ++ name
  | other => "<" ++ other.kind ++ ">"

def literal? : Expr → Option Value
  | .literal value => some value
  | _ => none

/-!
## Equality
-/

mutual

/-- Equality of trees. Doubles compare as numbers, so a tree that holds a not-a-number differs from
itself. -/
def same : Expr → Expr → Bool
  | .literal left, .literal right => left == right
  | .property left, .property right => left == right
  | .captured left, .captured right => left == right
  | .field leftBase leftName, .field rightBase rightName =>
    leftBase.same rightBase && leftName == rightName
  | .compare leftOp left₁ left₂, .compare rightOp right₁ right₂ =>
    leftOp == rightOp && left₁.same right₁ && left₂.same right₂
  | .and left₁ left₂, .and right₁ right₂ => left₁.same right₁ && left₂.same right₂
  | .or left₁ left₂, .or right₁ right₂ => left₁.same right₁ && left₂.same right₂
  | .not left, .not right => left.same right
  | .like leftKind left₁ left₂, .like rightKind right₁ right₂ =>
    leftKind == rightKind && left₁.same right₁ && left₂.same right₂
  | .isNull leftNegated left, .isNull rightNegated right =>
    leftNegated == rightNegated && left.same right
  | .inList leftNegated left leftItems, .inList rightNegated right rightItems =>
    leftNegated == rightNegated && left.same right && sameItems leftItems rightItems
  | .arithmetic leftOp left₁ left₂, .arithmetic rightOp right₁ right₂ =>
    leftOp == rightOp && left₁.same right₁ && left₂.same right₂
  | _, _ => false

def sameItems : List Expr → List Expr → Bool
  | [], [] => true
  | left :: lefts, right :: rights => left.same right && sameItems lefts rights
  | _, _ => false

end

instance : BEq Expr := ⟨same⟩

end Expr

end QueryText
