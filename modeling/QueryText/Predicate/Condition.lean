import QueryText.Fragment
import QueryText.Value.Arithmetic
import QueryText.Value.Comparison

/-!
# Conditions

A condition is what a statement says about a row: its leaves compare columns with slots, and all
that could be decided without a row is already a plain truth value. The text of a condition puts
every operand of a connective and every arithmetic node in parentheses.
-/

set_option autoImplicit false

namespace QueryText

inductive Term where
  | column (name : String)
  | slot (slot : Slot)
  | arithmetic (op : ArithmeticOp) (left right : Term)
  deriving BEq

inductive Condition where
  | truth (holds : Bool)
  | comparison (op : Relation) (left right : Term)
  | nullTest (negated : Bool) (term : Term)
  | like (column : String) (pattern : Slot)
  | inList (negated : Bool) (column : String) (items : List Slot)
  | and (left right : Condition)
  | or (left right : Condition)
  | not (operand : Condition)
  deriving BEq

def Term.fragment : Term → Fragment
  | .column name => [.name name]
  | .slot place => [.slot place]
  | .arithmetic op left right =>
    Fragment.parenthesized (left.fragment ++ .fixed (" " ++ op.symbol ++ " ") :: right.fragment)

namespace Condition

def fragment : Condition → Fragment
  | .truth holds => [.fixed (if holds then "1=1" else "1=0")]
  | .comparison op left right =>
    left.fragment ++ .fixed (" " ++ op.symbol ++ " ") :: right.fragment
  | .nullTest negated term =>
    term.fragment ++ [.fixed (if negated then " IS NOT NULL" else " IS NULL")]
  | .like column pattern => [.name column, .fixed " LIKE ", .slot pattern]
  | .inList negated column items =>
    .name column :: .fixed (if negated then " NOT IN " else " IN ") ::
      Fragment.parenthesized (Fragment.joined "," (items.map fun item => [.slot item]))
  | .and left right =>
    Fragment.parenthesized left.fragment ++ .fixed " AND " ::
      Fragment.parenthesized right.fragment
  | .or left right =>
    Fragment.parenthesized left.fragment ++ .fixed " OR " ::
      Fragment.parenthesized right.fragment
  | .not operand => .fixed "NOT " :: Fragment.parenthesized operand.fragment

end Condition

end QueryText
