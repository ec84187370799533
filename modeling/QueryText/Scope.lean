import QueryText.Error

/-!
# Capture variables

Expressions read variables of the calling code by name. A variable holds a value or an object whose
members are named variables again. A later binding of a name hides an earlier one.
-/

set_option autoImplicit false

namespace QueryText

mutual

inductive Capture where
  | value (value : Value)
  | object (members : Scope)

inductive Scope where
  | empty
  | extend (name : String) (captured : Capture) (outer : Scope)

end

namespace Scope

instance : Inhabited Scope := ⟨empty⟩

def get? : Scope → String → Option Capture
  | empty, _ => none
  | extend bound captured outer, name => if bound = name then some captured else outer.get? name

def insert (scope : Scope) (name : String) (captured : Capture) : Scope :=
  extend name captured scope

def bind (scope : Scope) (name : String) (value : Value) : Scope :=
  scope.insert name (.value value)

def bindObject (scope : Scope) (name : String) (members : Scope) : Scope :=
  scope.insert name (.object members)

def lookup (scope : Scope) (name : String) : Except RenderError Capture :=
  match scope.get? name with
  | some captured => .ok captured
  | none => .error (.unknownCapture name)

def names : Scope → List String
  | empty => []
  | extend name _ outer => outer.names.insert name

def size (scope : Scope) : Nat :=
  scope.names.length

def isEmpty (scope : Scope) : Bool :=
  scope.size == 0

end Scope

/-!
## Equality

Two scopes are equal when they bind the same names to equal things, in whatever order.
-/

mutual

def Capture.same : Capture → Capture → Bool
  | .value left, .value right => left == right
  | .object left, .object right => left.names.length == right.names.length && left.within [] right
  | _, _ => false

/-- Whether every name of the scope that is not in `hidden` has an equal binding in `other`. -/
def Scope.within : Scope → List String → Scope → Bool
  | .empty, _, _ => true
  | .extend name captured outer, hidden, other =>
    (hidden.contains name ||
      match other.get? name with
      | some otherCaptured => captured.same otherCaptured
      | none => false) &&
    outer.within (name :: hidden) other

end

instance : BEq Capture := ⟨Capture.same⟩

instance : BEq Scope := ⟨fun left right => left.size == right.size && left.within [] right⟩

end QueryText
