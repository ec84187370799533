import QueryText.Error

/-!
# Entities

The mapping of an entity's properties to the columns of a table.
-/

set_option autoImplicit false

namespace QueryText

structure Column where
  property : String
  column : String
  dataType : DataType
  nullable : Bool := false
  key : Bool := false
  generated : Bool := false
  deriving DecidableEq

namespace Column

def generatedKey (property column : String) (dataType : DataType) : Column :=
  { property, column, dataType, key := true, generated := true }

def withNulls (column : Column) : Column :=
  { column with nullable := true }

end Column

structure Entity where
  name : String
  table : String
  columns : List Column
  deriving DecidableEq

namespace Entity

/-- The column of a name: the first whose property has the name, and if there is none the first
whose column has it. -/
def resolve? (entity : Entity) (name : String) : Option Column :=
  (entity.columns.find? fun column => column.property == name).or
    (entity.columns.find? fun column => column.column == name)

def resolve (entity : Entity) (name : String) : Except RenderError Column :=
  match entity.resolve? name with
  | some column => .ok column
  | none => .error (.unknownProperty entity.name name)

def key? (entity : Entity) : Option Column :=
  entity.columns.find? Column.key

def columnNames (entity : Entity) : List String :=
  entity.columns.map Column.column

end Entity

end QueryText
