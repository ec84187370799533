import QueryText.Mapping.Instance
import QueryText.Proofs.Pass
import QueryText.Proofs.Resolution

/-!
# Rows of mapped records

The mapping of a declaration yields the columns of an entity, and an instance of the record the
assignments that store it. Both describe the same columns, so the row that takes the assignments
writes just the columns that are not generated, each with a value of its declared type.
-/

set_option autoImplicit false

namespace QueryText

/-!
## Columns and what is stored in them
-/

/-- The columns that a row of the entity writes. -/
def Entity.writtenColumns (entity : Entity) : List Column :=
  entity.columns.filter fun column => !column.generated

def Column.slot (column : Column) (value : Value) : Slot :=
  ⟨column.column, value, column.dataType⟩

/-- The assignment stores a value of the column's declared type under the column's name. Only a
nullable column takes a null. -/
structure Column.Takes (column : Column) (assignment : Assignment) : Prop where
  key : assignment.key = column.column
  assigns : assignment.op = .assign
  dataType : assignment.dataType = column.dataType
  nullable : assignment.value.isNull = true → column.nullable = true
  typed : assignment.value.isNull = false → assignment.value.dataType = column.dataType

namespace Column.Takes

variable {column : Column} {columns : List Column} {assignment : Assignment}
  {assignments : List Assignment}

theorem eq_typed (taken : column.Takes assignment) :
    assignment = .typed column.column assignment.value column.dataType := by
  obtain ⟨key, op, value, dataType⟩ := assignment
  obtain ⟨rfl, rfl, rfl, _, _⟩ := taken
  rfl

theorem fits (taken : column.Takes assignment) : assignment.value.Fits column.dataType := by
  by_cases null : assignment.value.isNull = true
  · exact .inl null
  · exact .inr (.inr (taken.typed (Bool.eq_false_iff.mpr null)))

theorem slots (taken : List.Forall₂ Column.Takes columns assignments) :
    assignments.map Assignment.slot =
      List.zipWith Column.slot columns (assignments.map Assignment.value) := by
  induction taken with
  | nil => rfl
  | @cons column assignment _ _ first _ ih =>
      rw [List.map_cons, List.map_cons, List.zipWith_cons_cons, ← ih, first.eq_typed]
      rfl

theorem keys (taken : List.Forall₂ Column.Takes columns assignments) :
    assignments.map Assignment.key = columns.map Column.column := by
  rw [← List.forall₂_eq_eq_eq, List.forall₂_map_left_iff, List.forall₂_map_right_iff]
  exact taken.flip.imp fun _ _ takes => takes.key

theorem dataTypes (taken : List.Forall₂ Column.Takes columns assignments) :
    assignments.map Assignment.dataType = columns.map Column.dataType := by
  rw [← List.forall₂_eq_eq_eq, List.forall₂_map_left_iff, List.forall₂_map_right_iff]
  exact taken.flip.imp fun _ _ takes => takes.dataType

theorem stores {entity : Entity} (taken : List.Forall₂ Column.Takes columns assignments)
    (columnsOf : ∀ column ∈ columns, column ∈ entity.columns) :
    ∀ assignment ∈ assignments, entity.Stores assignment := by
  intro assignment member
  obtain ⟨column, columnMember, takes⟩ := Result.exists_of_mem taken member
  exact ⟨column, columnsOf column columnMember, assignment.value, takes.fits, takes.eq_typed⟩

end Column.Takes

/-!
## Written rows
-/

/-- The text of a row: the columns of a table, and what is written for each of them. -/
def Insert.rowText (dialect : Dialect) (table : String) (columns fillings : List String) :
    String :=
  "INSERT INTO " ++ (dialect.quotedName table ++
    if columns.isEmpty then " DEFAULT VALUES"
    else
      " " ++ (parenthesizedText (String.intercalate "," (columns.map dialect.quotedName)) ++
        (" VALUES " ++ parenthesizedText (String.intercalate "," fillings))))

/-- The row of a table that writes slots in the columns that they are named after. -/
def Insert.written (settings : Settings) (table : String) (slots : List Slot) : Rendered :=
  { sql := rowText settings.dialect table (slots.map Slot.base) (settings.fillings 0 slots)
    parameters := ⟨if settings.useParameters then Slot.parametersFrom 0 slots else []⟩ }

namespace Fragment

variable {settings : Settings}

theorem texts_slots (slots : List Slot) (bound : Nat) :
    texts settings bound (slots.map fun slot => [.slot slot]) = settings.fillings bound slots := by
  induction slots generalizing bound with
  | nil => rfl
  | cons slot rest ih =>
      rw [List.map_cons, texts, ih, text_slot, text_nil, slots_slot, slots_nil, Settings.fillings,
        Settings.slotText, Settings.after]
      split <;> simp

theorem slots_insertedSlots (slots : List Slot) : (insertedSlots slots).slots = slots := by
  rw [insertedSlots, slots_append, slots_parenthesized, slots_joined, slots_names, slots_fixed,
    slots_parenthesized, slots_joined_slots, List.nil_append]

theorem text_insertedSlots (slots : List Slot) :
    (insertedSlots slots).text settings 0 =
      parenthesizedText
          (String.intercalate "," ((slots.map Slot.base).map settings.dialect.quotedName)) ++
        (" VALUES " ++
          parenthesizedText (String.intercalate "," (settings.fillings 0 slots))) := by
  have unbound : Fragment.slots
      (parenthesized (joined "," (slots.map fun slot => [.name slot.base]))) = [] := by
    rw [slots_parenthesized, slots_joined, slots_names]
  rw [insertedSlots, text_append, unbound, Settings.after_nil, text_fixed, text_parenthesized,
    text_parenthesized, text_joined, text_joined, texts_names, texts_slots, List.map_map]
  rfl

theorem bind_empty (fragment : Fragment) :
    fragment.bind settings .empty =
      ⟨if settings.useParameters then Slot.parametersFrom 0 fragment.slots else []⟩ :=
  congrArg Parameters.mk (bind_toList settings .empty fragment)

theorem rendered_defaults (table : String) :
    rendered settings [.fixed "INSERT INTO ", .name table, .fixed " DEFAULT VALUES"] =
      Insert.written settings table [] := by
  have text : text settings 0 [.fixed "INSERT INTO ", .name table, .fixed " DEFAULT VALUES"] =
      Insert.rowText settings.dialect table [] [] := by
    simp [Insert.rowText]
  rw [rendered, text, bind_empty]
  rfl

theorem rendered_ofSlots {slots : List Slot} (filled : slots ≠ []) (table : String) :
    rendered settings (Insert.ofSlots table slots) = Insert.written settings table slots := by
  have columns : (slots.map Slot.base).isEmpty = false := by simpa using filled
  have text : (Insert.ofSlots table slots).text settings 0 =
      Insert.rowText settings.dialect table (slots.map Slot.base) (settings.fillings 0 slots) := by
    rw [Insert.ofSlots, text_fixed, text_name, text_fixed, text_insertedSlots, Insert.rowText,
      columns]
    rfl
  have bound : (Insert.ofSlots table slots).slots = slots := slots_insertedSlots slots
  rw [rendered, text, bind_empty, bound, Insert.written]

end Fragment

namespace Entity

variable {entity : Entity} {assignments : List Assignment} {settings : Settings}

/-- The row of stored values is their slots written; without values it takes the defaults. -/
theorem inserting_outcome (stored : ∀ assignment ∈ assignments, entity.Stores assignment) :
    (entity.inserting assignments settings).build.outcome =
      (assignments.mapM (settings.context none none).assignmentSlot).map
        (Insert.written settings entity.table) := by
  cases assignments with
  | nil => exact congrArg Except.ok (Fragment.rendered_defaults entity.table)
  | cons assignment rest =>
      change Except.map _ (entity.inserting (assignment :: rest) settings).fragment = _
      rw [inserting_fragment (List.cons_ne_nil _ _) stored, Result.map_map]
      cases placed : (assignment :: rest).mapM (settings.context none none).assignmentSlot with
      | error error => simp only [Except.map]
      | ok slots =>
          have filled : slots ≠ [] := by
            rw [Context.assignmentSlots_eq placed]
            exact List.cons_ne_nil _ _
          exact congrArg Except.ok (Fragment.rendered_ofSlots filled entity.table)

theorem inserting_bound (binds : settings.useParameters = true)
    (stored : ∀ assignment ∈ assignments, entity.Stores assignment) :
    (entity.inserting assignments settings).build.outcome =
      .ok (Insert.written settings entity.table (assignments.map Assignment.slot)) := by
  have placed : assignments.mapM (settings.context none none).assignmentSlot =
      .ok (assignments.map Assignment.slot) := by
    rw [Result.mapM_eq_ok_iff, List.forall₂_map_right_iff, List.forall₂_same]
    exact fun assignment _ => Context.slot_bound binds ..
  rw [inserting_outcome stored, placed]
  rfl

theorem eq_written_of_inserting (stored : ∀ assignment ∈ assignments, entity.Stores assignment)
    {rendered : Rendered}
    (inserted : (entity.inserting assignments settings).build.outcome = .ok rendered) :
    rendered = Insert.written settings entity.table (assignments.map Assignment.slot) := by
  rw [inserting_outcome stored] at inserted
  obtain ⟨slots, placed, rfl⟩ := Result.map_eq_ok_iff.mp inserted
  rw [Context.assignmentSlots_eq placed]

end Entity

namespace Mapping

/-!
## Types
-/

namespace StoredType

theorem nullable_of_isNull : (type : StoredType) → (content : type.Content) →
    (type.value content).isNull = true → type.nullable = true
  | optional _, _, _ => rfl
  | bool, _, null | int16, _, null | int32, _, null | int64, _, null | double, _, null
  | text, _, null | dateTime, _, null | date, _, null | uuid, _, null | bytes, _, null =>
    nomatch null

/-- A content that is not null has a value of the type that its column is declared with. -/
theorem dataType_value : (type : StoredType) → (content : type.Content) →
    (type.value content).isNull = false → (type.value content).dataType = type.dataType
  | optional _, none, present => nomatch present
  | optional inner, some content, present => inner.dataType_value content present
  | bool, _, _ | int16, _, _ | int32, _, _ | int64, _, _ | double, _, _ | text, _, _
  | dateTime, _, _ | date, _, _ | uuid, _, _ | bytes, _, _ => rfl

end StoredType

/-!
## Contents
-/

theorem StoredField.takes (field : StoredField) (content : field.storedType.Content) :
    field.toColumn.Takes
      (.typed field.column (field.storedType.value content) field.storedType.dataType) where
  key := rfl
  assigns := rfl
  dataType := rfl
  nullable := field.storedType.nullable_of_isNull content
  typed := field.storedType.dataType_value content

namespace Contents

theorem takes {fields : List StoredField} (contents : Contents fields) :
    List.Forall₂ Column.Takes
      ((fields.map StoredField.toColumn).filter fun column => !column.generated)
      contents.assignments := by
  induction contents with
  | nil => exact .nil
  | @cons field fields content rest ih =>
      have generatedOf : field.toColumn.generated = field.generated := rfl
      rw [assignments, List.map_cons]
      cases generated : field.generated with
      | true =>
          rw [if_pos rfl, List.filter_cons_of_neg (by simp [generatedOf, generated])]
          exact ih
      | false =>
          rw [if_neg Bool.false_ne_true,
            List.filter_cons_of_pos (by simp [generatedOf, generated])]
          exact .cons (field.takes content) ih

/-- The assignments are those of an entity with the fields' columns, made of one value for each
column. -/
theorem assignments_eq {fields : List StoredField} (contents : Contents fields) {entity : Entity}
    (columns : entity.columns = fields.map StoredField.toColumn) :
    contents.assignments = entity.assignments contents.values := by
  rw [Entity.assignments, columns]
  clear columns
  induction contents with
  | nil => rfl
  | @cons field fields content rest ih =>
      rw [assignments, values, List.map_cons, List.zip_cons_cons, List.filterMap_cons, ← ih]
      have generatedOf : field.toColumn.generated = field.generated := rfl
      simp only [generatedOf]
      cases field.generated <;> rfl

end Contents

/-!
## Declarations
-/

/-- Only a key can be generated. -/
theorem FieldOptions.key_of_generated {attributes : List Attribute} {options : FieldOptions}
    (read : FieldOptions.ofAttributes attributes = .ok options)
    (generated : options.generated = true) : options.key = true := by
  obtain ⟨merged, _, checked⟩ := Result.bind_eq_ok_iff.mp read
  by_cases unkeyed : (merged.generated && !merged.key) = true
  · rw [if_pos unkeyed] at checked
    cases checked
  · rw [if_neg unkeyed] at checked
    cases checked
    simpa [generated] using unkeyed

theorem mapField_property {naming : Option Text.NamingRule} {field : Field} {mapped : MappedField}
    (result : mapField naming field = .ok mapped) :
    mapped.property = plainName (writtenName field.name) := by
  obtain ⟨options, _, result⟩ := Result.bind_eq_ok_iff.mp result
  rw [← Result.pure_eq_ok_iff.mp result]

theorem mapField_key_of_generated {naming : Option Text.NamingRule} {field : Field}
    {mapped : MappedField} (result : mapField naming field = .ok mapped)
    (generated : mapped.generated = true) : mapped.key = true := by
  obtain ⟨options, read, result⟩ := Result.bind_eq_ok_iff.mp result
  rw [← Result.pure_eq_ok_iff.mp result] at generated ⊢
  exact FieldOptions.key_of_generated read generated

/-- The fields of a mapping are the declared ones, in their order. -/
theorem ofDeclaration_fields {declaration : Declaration} {mapping : RecordMapping}
    (mapped : ofDeclaration declaration = .ok mapping) :
    ∃ naming, List.Forall₂ (fun field mapped => mapField naming field = .ok mapped)
      declaration.fields mapping.fields := by
  unfold ofDeclaration at mapped
  cases generic : hasParameters declaration.generics with
  | true =>
      rw [generic] at mapped
      cases mapped
  | false =>
      rw [generic] at mapped
      cases kind : declaration.kind with
      | namedFields =>
          rw [kind] at mapped
          obtain ⟨options, _, mapped⟩ := Result.bind_eq_ok_iff.mp mapped
          obtain ⟨fields, mappedFields, mapped⟩ := Result.bind_eq_ok_iff.mp mapped
          cases mapped
          exact ⟨options.naming, Result.mapM_eq_ok_iff.mp mappedFields⟩
      | tuple | unit | enumeration | union =>
          rw [kind] at mapped
          cases mapped

theorem ofDeclaration_properties {declaration : Declaration} {mapping : RecordMapping}
    (mapped : ofDeclaration declaration = .ok mapping) :
    mapping.fields.map MappedField.property =
      declaration.fields.map fun field => plainName (writtenName field.name) := by
  obtain ⟨naming, fields⟩ := ofDeclaration_fields mapped
  rw [← List.forall₂_eq_eq_eq, List.forall₂_map_left_iff, List.forall₂_map_right_iff]
  exact fields.flip.imp fun _ _ result => mapField_property result

theorem ofDeclaration_key_of_generated {declaration : Declaration} {mapping : RecordMapping}
    (mapped : ofDeclaration declaration = .ok mapping) :
    ∀ field ∈ mapping.fields, field.generated = true → field.key = true := by
  obtain ⟨naming, fields⟩ := ofDeclaration_fields mapped
  intro field member generated
  obtain ⟨_, _, result⟩ := Result.exists_of_mem fields member
  exact mapField_key_of_generated result generated

/-!
## Typed fields
-/

variable {mapping : RecordMapping} {named : String → Option StoredType} {record : StoredRecord}

private theorem typedFields {fields : List MappedField} {typed : List StoredField}
    (found : (fields.mapM fun field => (named field.type).map (StoredField.mk field)) =
      some typed) :
    typed.map StoredField.toMappedField = fields ∧
      ∀ field ∈ typed, named field.type = some field.storedType := by
  induction fields generalizing typed with
  | nil =>
      cases found
      exact ⟨rfl, List.forall_mem_nil _⟩
  | cons field rest ih =>
      rw [List.mapM_cons] at found
      obtain ⟨first, firstOk, found⟩ := Option.bind_eq_some_iff.mp found
      obtain ⟨others, othersOk, found⟩ := Option.bind_eq_some_iff.mp found
      obtain ⟨storedType, name, rfl⟩ := Option.map_eq_some_iff.mp firstOk
      obtain ⟨same, names⟩ := ih othersOk
      cases found
      exact ⟨by rw [List.map_cons, same], List.forall_mem_cons.mpr ⟨name, names⟩⟩

/-- A mapping is stored as a record of its fields, with the types that their texts name. -/
theorem RecordMapping.stored?_fields (stored : mapping.stored? named = some record) :
    record.name = mapping.name ∧ record.table = mapping.table ∧
      record.fields.map StoredField.toMappedField = mapping.fields ∧
      ∀ field ∈ record.fields, named field.type = some field.storedType := by
  obtain ⟨fields, typed, stored⟩ := Option.bind_eq_some_iff.mp stored
  cases stored
  exact ⟨rfl, rfl, typedFields typed⟩

private theorem columns_typed {fields : List StoredField}
    (each : ∀ field ∈ fields,
      RecordMapping.column? field.toMappedField = some field.toColumn) :
    (fields.map StoredField.toMappedField).mapM RecordMapping.column? =
      some (fields.map StoredField.toColumn) := by
  induction fields with
  | nil => rfl
  | cons field rest ih =>
      obtain ⟨first, others⟩ := List.forall_mem_cons.mp each
      rw [List.map_cons, List.mapM_cons, first, ih others]
      rfl

/-- Where the texts of the fields' types name what the mapping reads in them, the entity of the
record is that of the mapping. -/
theorem RecordMapping.entity?_eq (stored : mapping.stored? named = some record)
    (names : ∀ field ∈ mapping.fields,
      FieldType.ofText? field.type = (named field.type).map StoredType.columnType) :
    mapping.entity? = some record.entity := by
  obtain ⟨name, table, fields, types⟩ := stored?_fields stored
  have columns : mapping.fields.mapM column? = some (record.fields.map StoredField.toColumn) := by
    rw [← fields]
    refine columns_typed fun field member => ?_
    rw [column?, names _ (fields ▸ List.mem_map_of_mem member), types field member]
    rfl
  rw [RecordMapping.entity?, columns, StoredRecord.entity, name, table]
  rfl

theorem StoredRecord.writtenColumns_names (record : StoredRecord) :
    record.entity.writtenColumns.map Column.column =
      ((record.fields.map StoredField.toMappedField).filter fun field => !field.generated).map
        MappedField.column := by
  rw [Entity.writtenColumns, StoredRecord.entity, List.filter_map, List.filter_map, List.map_map,
    List.map_map]
  rfl

/-!
## Rows
-/

/-- The columns and the rows of a mapped record describe the same. There is one column for every
declared field, in the same order, and only keys are generated. An instance assigns to the other
columns alone, in order, a value of the declared type to each. Its row writes just these columns and
binds one parameter for each, which is declared as the column is. -/
theorem rows_follow_columns {declaration : Declaration}
    (mapped : ofDeclaration declaration = .ok mapping)
    (stored : mapping.stored? named = some record) (contents : Contents record.fields) :
    let entity := record.entity
    let assignments := contents.assignments
    let slots := List.zipWith Column.slot entity.writtenColumns (assignments.map Assignment.value)
    entity.columns.map Column.property =
        declaration.fields.map (fun field => plainName (writtenName field.name)) ∧
      (∀ column ∈ entity.columns, column.generated = true → column.key = true) ∧
      assignments = entity.assignments contents.values ∧
      assignments.map Assignment.key = mapping.writtenFields.map MappedField.column ∧
      List.Forall₂ Column.Takes entity.writtenColumns assignments ∧
      slots.map Slot.base = entity.writtenColumns.map Column.column ∧
      slots.map Slot.dataType = entity.writtenColumns.map Column.dataType ∧
      ∀ settings : Settings,
        (settings.useParameters = true →
          (entity.inserting assignments settings).build.outcome =
            .ok (Insert.written settings entity.table slots)) ∧
        ∀ rendered, (entity.inserting assignments settings).build.outcome = .ok rendered →
          rendered = Insert.written settings entity.table slots := by
  intro entity assignments slots
  obtain ⟨_, _, fields, _⟩ := RecordMapping.stored?_fields stored
  have takes : List.Forall₂ Column.Takes entity.writtenColumns assignments := contents.takes
  have stores := Column.Takes.stores takes fun column member => (List.mem_filter.mp member).1
  have placed : slots = assignments.map Assignment.slot := (Column.Takes.slots takes).symm
  refine ⟨?_, ?_, contents.assignments_eq rfl, ?_, takes, ?_, ?_, fun settings => ⟨?_, ?_⟩⟩
  · change (record.fields.map StoredField.toColumn).map Column.property = _
    rw [← ofDeclaration_properties mapped, ← fields, List.map_map, List.map_map]
    rfl
  · refine List.forall_mem_map.mpr fun field member => ?_
    exact ofDeclaration_key_of_generated mapped _ (fields ▸ List.mem_map_of_mem member)
  · rw [Column.Takes.keys takes, RecordMapping.writtenFields, ← fields]
    exact record.writtenColumns_names
  · rw [placed, List.map_map]
    exact Column.Takes.keys takes
  · rw [placed, List.map_map]
    exact Column.Takes.dataTypes takes
  · rw [placed]
    exact fun binds => Entity.inserting_bound binds stores
  · rw [placed]
    exact fun rendered inserted => Entity.eq_written_of_inserting stores inserted

/-- A record with a generated key, a type that is optional twice and a column of its own. -/
def sampleDeclaration : Declaration where
  name := "Shift"
  kind := .namedFields
  generics := ""
  attributes := [.mapping [⟨"rename_all", some (.text "camelCase")⟩]]
  fields :=
    [⟨"id", "i64", [.mapping [⟨"id", none⟩], .mapping [⟨"generated", none⟩]]⟩,
      ⟨"site_no", "Option<Option<i32>>", []⟩,
      ⟨"r#type", "i16", [.mapping [⟨"column", some (.text "Kind")⟩]]⟩]

def sampleMapping : RecordMapping where
  name := "Shift"
  table := "Shift"
  fields :=
    [⟨"id", "id", "id", "i64", true, true⟩,
      ⟨"site_no", "site_no", "siteNo", "Option<Option<i32>>", false, false⟩,
      ⟨"type", "r#type", "Kind", "i16", false, false⟩]

def sampleNames : String → Option StoredType
  | "i64" => some .int64
  | "i16" => some .int16
  | "Option<Option<i32>>" => some (.optional (.optional .int32))
  | _ => none

def sampleRecord : StoredRecord where
  name := "Shift"
  table := "Shift"
  fields :=
    List.zipWith StoredField.mk sampleMapping.fields
      [.int64, .optional (.optional .int32), .int16]

def sampleShift : Contents sampleRecord.fields :=
  .cons (7 : Int64) (.cons (some none : Option (Option Int32)) (.cons (3 : Int16) .nil))

theorem rows_follow_columns_sampleShift :
    ofDeclaration sampleDeclaration = .ok sampleMapping ∧
      sampleMapping.stored? sampleNames = some sampleRecord ∧
      List.Forall₂ Column.Takes sampleRecord.entity.writtenColumns sampleShift.assignments ∧
      ∃ rendered,
        (sampleRecord.entity.inserting sampleShift.assignments .standard).build.outcome =
          .ok rendered ∧
        rendered.sql = "INSERT INTO [Shift] ([siteNo],[Kind]) VALUES (@siteNo_0,@Kind_1)" ∧
        rendered.parameters.toList =
          [⟨"siteNo_0", .null, .int32⟩, ⟨"Kind_1", .int16 3, .int16⟩] := by
  have mapped : ofDeclaration sampleDeclaration = .ok sampleMapping := by decide +kernel
  have stored : sampleMapping.stored? sampleNames = some sampleRecord := rfl
  obtain ⟨_, _, _, _, takes, _, _, inserted⟩ := rows_follow_columns mapped stored sampleShift
  refine ⟨mapped, stored, takes, _, (inserted .standard).1 rfl, ?_, rfl⟩
  decide +kernel

end Mapping

end QueryText
