import QueryText.Dialect.Basic

/-!
# Bound parameters

The parameters of a statement in the order of their markers. The name of a parameter ends in its
position, so no name occurs twice.
-/

set_option autoImplicit false

namespace QueryText

/-- A value bound under a name, with the type it is declared with. The name is without the
marker. -/
structure Parameter where
  name : String
  value : Value
  dataType : DataType
  deriving BEq

/-- A character that may stand in a parameter name: an ASCII letter or digit or an underscore. -/
def isNameCharacter (character : Char) : Bool :=
  character.isAlphanum || character == '_'

/-- A column name with an underscore for every character that a parameter name cannot hold. -/
def markerBase (key : String) : String :=
  String.ofList (key.toList.map fun character =>
    if isNameCharacter character then character else '_')

def parameterName (base : String) (position : Nat) : String :=
  markerBase base ++ "_" ++ position.repr

structure Parameters where
  toList : List Parameter
  deriving BEq

namespace Parameters

def empty : Parameters := ⟨[]⟩

def size (parameters : Parameters) : Nat :=
  parameters.toList.length

def isEmpty (parameters : Parameters) : Bool :=
  parameters.toList.isEmpty

def get? (parameters : Parameters) (position : Nat) : Option Parameter :=
  parameters.toList[position]?

/-- Append a parameter. Its name is to be new, as `freshName` gives it. -/
def add (parameters : Parameters) (parameter : Parameter) : Parameters :=
  ⟨parameters.toList ++ [parameter]⟩

def freshName (parameters : Parameters) (base : String) : String :=
  parameterName base parameters.size

def bind (parameters : Parameters) (base : String) (value : Value) (dataType : DataType) :
    Parameters :=
  parameters.add ⟨parameters.freshName base, value, dataType⟩

def names (parameters : Parameters) : List String :=
  parameters.toList.map Parameter.name

def values (parameters : Parameters) : List Value :=
  parameters.toList.map Parameter.value

/-- A list of parameters for the reader, each under a name that `nameOf` gives. -/
def listing (parameters : Parameters) (nameOf : Parameter → String) : String :=
  let entries := parameters.toList.map fun parameter =>
    nameOf parameter ++ "=" ++ parameter.value.display ++ ":" ++ parameter.dataType.name
  "(" ++ String.intercalate "," entries ++ ")"

def describe (parameters : Parameters) (dialect : Dialect) : String :=
  parameters.listing fun parameter => dialect.marker parameter.name

def display (parameters : Parameters) : String :=
  parameters.listing Parameter.name

end Parameters

end QueryText
