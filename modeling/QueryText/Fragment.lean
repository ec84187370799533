import QueryText.Settings
import QueryText.Dialect.Identifier
import QueryText.Dialect.Literal
import QueryText.Parameter

/-!
# Fragments

A fragment is a part of a statement before its dialect is chosen: fixed text, names that are still
to be quoted, and slots for values. Writing a fragment quotes the names and fills each slot, either
with the marker of a parameter that is bound for it or with a literal.
-/

set_option autoImplicit false

namespace QueryText

/-!
## Pieces
-/

/-- A place for a value. `base` is the column that lends its name to the parameter. -/
structure Slot where
  base : String
  value : Value
  dataType : DataType
  deriving BEq

inductive Piece where
  | fixed (text : String)
  | name (name : String)
  | slot (slot : Slot)
  | now
  deriving BEq

abbrev Fragment := List Piece

namespace Fragment

def parenthesized (fragment : Fragment) : Fragment :=
  .fixed "(" :: fragment ++ [.fixed ")"]

def joined (separator : String) : List Fragment → Fragment
  | [] => []
  | [fragment] => fragment
  | fragment :: next :: rest => fragment ++ .fixed separator :: joined separator (next :: rest)

def slots (fragment : Fragment) : List Slot :=
  fragment.filterMap fun
    | .slot slot => some slot
    | _ => none

/-!
## Writing
-/

/-- The text of a fragment behind `bound` parameters. -/
def text (settings : Settings) (bound : Nat) : Fragment → String
  | [] => ""
  | .fixed text :: rest => text ++ Fragment.text settings bound rest
  | .name name :: rest =>
    settings.dialect.quotedName name ++ Fragment.text settings bound rest
  | .now :: rest => settings.dialect.now ++ Fragment.text settings bound rest
  | .slot slot :: rest =>
    if settings.useParameters then
      settings.dialect.marker (parameterName slot.base bound) ++
        Fragment.text settings (bound + 1) rest
    else
      settings.dialect.literalText slot.value ++ Fragment.text settings bound rest

/-- The parameters after those of a fragment have been bound; literals bind none. -/
def bind (settings : Settings) (parameters : Parameters) (fragment : Fragment) : Parameters :=
  if settings.useParameters then
    fragment.slots.foldl
      (fun bound slot => bound.bind slot.base slot.value slot.dataType) parameters
  else parameters

end Fragment

end QueryText
