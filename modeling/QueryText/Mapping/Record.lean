import QueryText.Assignment
import QueryText.Entity
import QueryText.Mapping.Attribute
import QueryText.Mapping.TypeText

/-!
# Record mappings

The mapping of a declared record to a table: its fields become columns, renamed as its attributes
say. Keys that the database generates are read but never written.
-/

set_option autoImplicit false

namespace QueryText.Mapping

/-!
## Declarations
-/

inductive DeclarationKind where
  | namedFields
  | tuple
  | unit
  | enumeration
  | union
  deriving DecidableEq

structure Field where
  name : String
  type : String
  attributes : List Attribute
  deriving DecidableEq

/-- A type declaration. `generics` is what stands behind the name. -/
structure Declaration where
  name : String
  kind : DeclarationKind
  generics : String
  attributes : List Attribute
  fields : List Field
  deriving DecidableEq

def hasParameters (generics : String) : Bool :=
  match Token.scan generics with
  | .punctuation '<' :: token :: _ => token != .punctuation '>'
  | _ => false

/-- The name that a text holds besides comments and marks of visibility: its last word. A raw name
keeps its mark. -/
def writtenName (text : String) : String :=
  let words := (Token.scan text).filterMap fun token =>
    match token with
    | .word name => some name
    | _ => none
  words.getLast?.getD text

def plainName (name : String) : String :=
  match name.toList with
  | 'r' :: '#' :: rest => String.ofList rest
  | _ => name

/-!
## Mappings
-/

structure MappedField where
  property : String
  field : String
  column : String
  type : String
  key : Bool
  generated : Bool
  deriving DecidableEq

structure RecordMapping where
  name : String
  table : String
  fields : List MappedField
  deriving DecidableEq

/-- The mapping of a field. A column that the field names itself goes before the record's naming
rule, and without both the column is named as the field. -/
def mapField (naming : Option Text.NamingRule) (field : Field) :
    Except MappingError MappedField := do
  let options ← FieldOptions.ofAttributes field.attributes
  let name := writtenName field.name
  let property := plainName name
  return {
    property
    field := name
    column :=
      options.column.getD ((naming.map fun rule => rule.apply property).getD property)
    type := TypeText.ofSource field.type
    key := options.key
    generated := options.generated }

/-- The mapping of a declaration. Only records with named fields and without parameters have
one. -/
def ofDeclaration (declaration : Declaration) : Except MappingError RecordMapping := do
  if hasParameters declaration.generics then throw .genericRecord
  match declaration.kind with
  | .namedFields => pure ()
  | .tuple | .unit => throw .unnamedFields
  | .enumeration | .union => throw .notARecord
  let options ← RecordOptions.ofAttributes declaration.attributes
  let fields ← declaration.fields.mapM (mapField options.naming)
  let name := writtenName declaration.name
  return { name, table := options.table.getD name, fields }

def RecordMapping.writtenFields (mapping : RecordMapping) : List MappedField :=
  mapping.fields.filter fun field => !field.generated

/-!
## Typed mappings
-/

structure FieldType where
  dataType : DataType
  nullable : Bool
  deriving DecidableEq

def plainTypes : List (String × DataType) :=
  [("bool", .boolean), ("i16", .int16), ("i32", .int32), ("i64", .int64), ("f64", .double),
   ("String", .string), ("DateTime", .dateTime), ("Date", .date), ("Uuid", .guid),
   ("Vec<u8>", .binary)]

/-- The column type of a field type: a plain type, or an optional one that also holds null. -/
def FieldType.ofText? (type : String) : Option FieldType :=
  match plainTypes.lookup type with
  | some dataType => some ⟨dataType, false⟩
  | none =>
    let optional := plainTypes.map fun entry => ("Option<" ++ entry.1 ++ ">", entry.2)
    (optional.lookup type).map fun dataType => ⟨dataType, true⟩

namespace RecordMapping

def column? (field : MappedField) : Option Column :=
  (FieldType.ofText? field.type).map fun type =>
    { property := field.property
      column := field.column
      dataType := type.dataType
      nullable := type.nullable
      key := field.key
      generated := field.generated }

def entity? (mapping : RecordMapping) : Option Entity := do
  let columns ← mapping.fields.mapM column?
  return { name := mapping.name, table := mapping.table, columns }

end RecordMapping

end QueryText.Mapping

namespace QueryText

/-- The assignments that store one value for every column of an entity, generated columns left
out. -/
def Entity.assignments (entity : Entity) (values : List Value) : List Assignment :=
  (entity.columns.zip values).filterMap fun (column, value) =>
    if column.generated then none else some (.typed column.column value column.dataType)

end QueryText
