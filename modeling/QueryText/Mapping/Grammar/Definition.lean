import QueryText.Mapping.Grammar.Function

/-!
# Definitions of types

Names for types, records, unions and enumerations in standard form.
-/

set_option autoImplicit false

namespace QueryText.Mapping.Grammar

open Rewriter View

/-!
## Names for types
-/

structure AliasForm where
  bounded : Bool
  defined : Bool

/-- A name for a type that is no member of a trait: it is in standard form only with a definition
and without bounds. -/
def AliasForm.irregular (form : AliasForm) : Bool :=
  form.bounded || !form.defined

def typeAlias (rules : Rules) : Rewriter AliasForm := do
  keepWord "type"
  keepAnyWord
  discard (declaredParameters rules)
  let bounded ← declaredBounds rules
  discard (conditions rules)
  let defined ← keepMark? "="
  if defined then rules (.type true)
  discard (conditions rules)
  keepMark ";"
  return ⟨bounded, defined⟩

/-!
## Fields
-/

/-- One field with a name. A record type without a name is kept as it is. -/
def namedField (rules : Rules) : Rewriter Unit := do
  attributes rules
  discard visibility
  let unnamed ← sees (word "_")
  keepAnyWord
  keepMark ":"
  if unnamed && (← sees (all [anyWordOf ["struct", "union"], second (group '\x7b')])) then
    keep 1
    keepTree
  else rules (.type true)

def namedFields (rules : Rules) : Rewriter Unit :=
  inside (separated (namedField rules))

def plainFields (rules : Rules) : Rewriter Unit :=
  inside do
    separated do
      attributes rules
      discard visibility
      rules (.type true)

/-!
## Records and enumerations
-/

def typeHead (rules : Rules) : Rewriter Unit := do
  keepAnyWord
  discard (declaredParameters rules)

def recordItem (rules : Rules) : Rewriter Unit := do
  keep 1
  typeHead rules
  discard (conditions rules)
  if ← sees (group '\x7b') then namedFields rules
  else
    if ← sees (group '(') then plainFields rules
    discard (conditions rules)
    keepMark ";"

/-- One case of an enumeration. A mark of visibility is left out. -/
def variant (rules : Rules) : Rewriter Unit := do
  attributes rules
  discard (aside visibility)
  keepAnyWord
  if ← sees (group '\x7b') then namedFields rules
  else if ← sees (group '(') then plainFields rules
  discard (value rules)

def enumeration (rules : Rules) : Rewriter Unit := do
  keepWord "enum"
  typeHead rules
  discard (conditions rules)
  inside (separated (variant rules))

end QueryText.Mapping.Grammar
