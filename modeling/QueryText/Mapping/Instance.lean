import QueryText.Mapping.Record

/-!
# Instances of mapped records

The fields of a record hold contents of types that can be stored. An instance of the record stores
one value for every field that the database does not generate.
-/

set_option autoImplicit false

namespace QueryText.Mapping

/-!
## Types of fields
-/

/-- A type whose contents can be stored. An optional type may be optional again. -/
inductive StoredType where
  | bool
  | int16
  | int32
  | int64
  | double
  | text
  | dateTime
  | date
  | uuid
  | bytes
  | optional (inner : StoredType)
  deriving DecidableEq

namespace StoredType

def dataType : StoredType → DataType
  | bool => .boolean
  | int16 => .int16
  | int32 => .int32
  | int64 => .int64
  | double => .double
  | text => .string
  | dateTime => .dateTime
  | date => .date
  | uuid => .guid
  | bytes => .binary
  | optional inner => inner.dataType

def nullable : StoredType → Bool
  | optional _ => true
  | _ => false

def columnType (type : StoredType) : FieldType :=
  ⟨type.dataType, type.nullable⟩

/-- What a field of the type holds. -/
def Content : StoredType → Type
  | bool => Bool
  | int16 => Int16
  | int32 => Int32
  | int64 => Int64
  | double => Float
  | text => String
  | dateTime => DateTime
  | date => Date
  | uuid => Uuid
  | bytes => List UInt8
  | optional inner => Option inner.Content

/-- The value of a content. A missing content is null, however deep it is missing. -/
def value : (type : StoredType) → type.Content → Value
  | bool, content => .bool content
  | int16, content => .int16 content
  | int32, content => .int32 content
  | int64, content => .int64 content
  | double, content => .double content
  | text, content => .text content
  | dateTime, content => .dateTime content
  | date, content => .date content
  | uuid, content => .uuid content
  | bytes, content => .bytes content
  | optional _, none => .null
  | optional inner, some content => inner.value content

end StoredType

/-!
## Records
-/

/-- A mapped field with the type that its text names. -/
structure StoredField extends MappedField where
  storedType : StoredType
  deriving DecidableEq

def StoredField.toColumn (field : StoredField) : Column :=
  { property := field.property
    column := field.column
    dataType := field.storedType.dataType
    nullable := field.storedType.nullable
    key := field.key
    generated := field.generated }

structure StoredRecord where
  name : String
  table : String
  fields : List StoredField
  deriving DecidableEq

def StoredRecord.entity (record : StoredRecord) : Entity :=
  { name := record.name, table := record.table, columns := record.fields.map StoredField.toColumn }

/-- The record of a mapping. Which type a text names depends on the names that are known where the
record is declared; `named` knows them. -/
def RecordMapping.stored? (named : String → Option StoredType) (mapping : RecordMapping) :
    Option StoredRecord := do
  let fields ← mapping.fields.mapM fun field =>
    (named field.type).map fun storedType => { toMappedField := field, storedType }
  return { name := mapping.name, table := mapping.table, fields }

/-!
## Instances
-/

/-- A content for each of some fields. -/
inductive Contents : List StoredField → Type where
  | nil : Contents []
  | cons {field : StoredField} {fields : List StoredField} :
      field.storedType.Content → Contents fields → Contents (field :: fields)

namespace Contents

def values : {fields : List StoredField} → Contents fields → List Value
  | _, nil => []
  | field :: _, cons content rest => field.storedType.value content :: rest.values

/-- The assignments that store the contents. -/
def assignments : {fields : List StoredField} → Contents fields → List Assignment
  | _, nil => []
  | field :: _, cons content rest =>
    if field.generated then rest.assignments
    else
      .typed field.column (field.storedType.value content) field.storedType.dataType ::
        rest.assignments

end Contents

end QueryText.Mapping
