import QueryText.Proofs.Request
import QueryText.Proofs.Clause
import QueryText.Mapping.Record
import Mathlib.Data.List.Nodup

/-!
# Resolution of names

A name stands for the column whose property it is, and if there is none for the column that is
called so. An INSERT takes the keys of its assignments as names of columns, an UPDATE of an entity
resolves them. They write the same columns as long as no column is called as the property of another
one.
-/

set_option autoImplicit false

namespace QueryText

namespace Entity

variable {entity : Entity} {name : String} {column other : Column}

/-- Each property and each column of the entity has a name of its own. -/
structure Distinct (entity : Entity) : Prop where
  properties : (entity.columns.map Column.property).Nodup
  columns : entity.columnNames.Nodup

/-- If a column has `name` for its property, that is its own name too. -/
def Unshadowed (entity : Entity) (name : String) : Prop :=
  ∀ column ∈ entity.columns, column.property = name → column.column = name

theorem Distinct.eq_of_property (distinct : entity.Distinct) (member : column ∈ entity.columns)
    (otherMember : other ∈ entity.columns) (same : column.property = other.property) :
    column = other :=
  List.inj_on_of_nodup_map distinct.properties member otherMember same

theorem Distinct.eq_of_column (distinct : entity.Distinct) (member : column ∈ entity.columns)
    (otherMember : other ∈ entity.columns) (same : column.column = other.column) :
    column = other :=
  List.inj_on_of_nodup_map distinct.columns member otherMember same

/-- A property resolves to the column that has it. -/
theorem Distinct.resolve_property (distinct : entity.Distinct)
    (member : column ∈ entity.columns) : entity.resolve column.property = .ok column := by
  unfold resolve resolve?
  cases found : entity.columns.find? fun other => other.property == column.property with
  | none => exact absurd (beq_self_eq_true _) (List.find?_eq_none.mp found column member)
  | some other =>
      have same : other.property = column.property := by simpa using List.find?_some found
      rw [distinct.eq_of_property (List.mem_of_find?_eq_some found) member same]
      rfl

/-- A name that is no property resolves to the column that has it. -/
theorem Distinct.resolve_column (distinct : entity.Distinct) (member : column ∈ entity.columns)
    (noProperty : ∀ other ∈ entity.columns, other.property ≠ column.column) :
    entity.resolve column.column = .ok column := by
  have noneFound : (entity.columns.find? fun other => other.property == column.column) = none := by
    simpa using noProperty
  unfold resolve resolve?
  rw [noneFound, Option.none_or]
  cases found : entity.columns.find? fun other => other.column == column.column with
  | none => exact absurd (beq_self_eq_true _) (List.find?_eq_none.mp found column member)
  | some other =>
      have same : other.column = column.column := by simpa using List.find?_some found
      rw [distinct.eq_of_column (List.mem_of_find?_eq_some found) member same]

theorem Distinct.unshadowed_of_resolve (distinct : entity.Distinct)
    (resolved : entity.resolve name = .ok column) (same : column.column = name) :
    entity.Unshadowed name := by
  intro other member shadows
  have first := distinct.resolve_property member
  rw [shadows, resolved] at first
  rw [← Except.ok.inj first, same]

/-- The name of a column resolves to that column exactly if no other column has it for its
property. -/
theorem Distinct.resolve_column_iff (distinct : entity.Distinct)
    (member : column ∈ entity.columns) :
    entity.resolve column.column = .ok column ↔ entity.Unshadowed column.column := by
  refine ⟨fun resolved => distinct.unshadowed_of_resolve resolved rfl, fun unshadowed => ?_⟩
  by_cases shadowing : ∃ other ∈ entity.columns, other.property = column.column
  · obtain ⟨other, otherMember, shadows⟩ := shadowing
    have same := unshadowed other otherMember shadows
    rw [← distinct.eq_of_column otherMember member same]
    have property : other.column = other.property := same.trans shadows.symm
    rw [property]
    exact distinct.resolve_property otherMember
  · exact distinct.resolve_column member fun other otherMember same =>
      shadowing ⟨other, otherMember, same⟩

end Entity

/-!
## Stored values
-/

/-- A column of type `target` holds the value as it is. -/
def Value.Fits (value : Value) (target : DataType) : Prop :=
  value.isNull = true ∨ target = .object ∨ value.dataType = target

theorem Value.coerce_fits {value : Value} {target : DataType} (fits : value.Fits target)
    (name : String) : value.coerce target name = .ok value :=
  if_pos fits

/-- An assignment that stores a value of a column's declared type under the column's name. -/
def Entity.Stores (entity : Entity) (assignment : Assignment) : Prop :=
  ∃ column ∈ entity.columns, ∃ value : Value, value.Fits column.dataType ∧
    assignment = .typed column.column value column.dataType

theorem Entity.Stores.assigns {entity : Entity} {assignment : Assignment}
    (stored : entity.Stores assignment) : assignment.op = .assign := by
  obtain ⟨column, _, value, _, rfl⟩ := stored
  rfl

def Assignment.slot (assignment : Assignment) : Slot :=
  ⟨assignment.key, assignment.value, assignment.dataType⟩

/-- A row that is made of the values of slots, each in the column that its slot is named after. -/
def Fragment.insertedSlots (slots : List Slot) : Fragment :=
  parenthesized (joined "," (slots.map fun slot => [.name slot.base])) ++ .fixed " VALUES " ::
    parenthesized (joined "," (slots.map fun slot => [.slot slot]))

/-- A change of the columns that slots are named after to the values of the slots. -/
def Fragment.updatedSlots (slots : List Slot) : Fragment :=
  .fixed "SET " ::
    joined "," (slots.map fun slot => [.name slot.base, .fixed "=", .slot slot])

theorem Fragment.slots_updatedSlots (slots : List Slot) : (updatedSlots slots).slots = slots := by
  rw [updatedSlots, slots_fixed, slots_joined, List.flatMap_map]
  exact List.flatMap_singleton' slots

namespace Context

variable {context : Context} {entity : Entity} {assignments : List Assignment}

def assignmentSlot (context : Context) (assignment : Assignment) : Except RenderError Slot :=
  context.slot assignment.key assignment.value assignment.dataType

theorem assignmentSlot_eq {assignment : Assignment} {slot : Slot}
    (placed : context.assignmentSlot assignment = .ok slot) : slot = assignment.slot :=
  (slot_eq_ok_iff.mp placed).2.symm

/-- An assignment that stores a value resolves to itself unless another column has its key for a
property. -/
theorem resolvedAssignment_stored (known : context.entity = some entity)
    (distinct : entity.Distinct) {assignment : Assignment} (stored : entity.Stores assignment)
    (unshadowed : entity.Unshadowed assignment.key) :
    context.resolvedAssignment assignment = .ok assignment := by
  obtain ⟨column, member, value, fits, rfl⟩ := stored
  have resolved : entity.resolve column.column = .ok column :=
    (distinct.resolve_column_iff member).mpr unshadowed
  simp only [resolvedAssignment, known, Assignment.typed, resolved]
  change (do
    let value ← value.coerce column.dataType column.column
    pure (Assignment.mk column.column .assign value column.dataType)) = _
  rw [Value.coerce_fits fits]
  rfl

/-- A resolved assignment does the same to the column that its key resolves to. -/
theorem resolvedAssignment_column (known : context.entity = some entity)
    {assignment resolved : Assignment}
    (result : context.resolvedAssignment assignment = .ok resolved) :
    ∃ column, entity.resolve assignment.key = .ok column ∧ resolved.key = column.column ∧
      resolved.op = assignment.op := by
  simp only [resolvedAssignment, known] at result
  obtain ⟨column, found, result⟩ := Result.bind_eq_ok_iff.mp result
  refine ⟨column, found, ?_⟩
  split at result
  · cases result
    exact ⟨rfl, rfl⟩
  · obtain ⟨value, _, result⟩ := Result.bind_eq_ok_iff.mp result
    cases result
    exact ⟨rfl, rfl⟩

theorem insertedValue_assign {assignment : Assignment} (assigns : assignment.op = .assign) :
    context.insertedValue assignment =
      (context.assignmentSlot assignment).map fun slot => [.slot slot] := by
  rw [insertedValue, assigns]
  rfl

theorem assignmentFragment_assign {assignment : Assignment} (assigns : assignment.op = .assign) :
    context.assignmentFragment assignment =
      (context.assignmentSlot assignment).map fun slot =>
        [.name slot.base, .fixed "=", .slot slot] := by
  have unfolded : context.assignmentFragment assignment =
      (context.assignmentSlot assignment).map fun slot =>
        [.name assignment.key, .fixed "=", .slot slot] := by
    rw [assignmentFragment, assignedValue, assigns, assignmentSlot]
    cases context.slot assignment.key assignment.value assignment.dataType <;> rfl
  cases placed : context.assignmentSlot assignment with
  | error error => rw [unfolded, placed]; rfl
  | ok slot =>
      rw [unfolded, placed, assignmentSlot_eq placed]
      rfl

theorem assignmentSlots_eq {slots : List Slot}
    (placed : assignments.mapM context.assignmentSlot = .ok slots) :
    slots = assignments.map Assignment.slot := by
  have related := Result.mapM_eq_ok_iff.mp placed
  clear placed
  induction related with
  | nil => rfl
  | cons first _ ih => rw [List.map_cons, assignmentSlot_eq first, ih]

theorem valuesFragment_stored (filled : assignments ≠ [])
    (stored : ∀ assignment ∈ assignments, entity.Stores assignment) :
    context.valuesFragment assignments =
      (assignments.mapM context.assignmentSlot).map Fragment.insertedSlots := by
  obtain ⟨assignment, rest, rfl⟩ := List.exists_cons_of_ne_nil filled
  change ((assignment :: rest).mapM context.insertedValue >>= fun values => pure _) = _
  rw [Result.mapM_map fun item member => insertedValue_assign (stored item member).assigns]
  cases placed : (assignment :: rest).mapM context.assignmentSlot with
  | error error => rfl
  | ok slots =>
      have names : (slots.map fun slot => [Piece.name slot.base]) =
          (assignment :: rest).map fun assignment => [Piece.name assignment.key] := by
        rw [assignmentSlots_eq placed, List.map_map]
        rfl
      change Except.ok _ = Except.ok (Fragment.insertedSlots slots)
      rw [Fragment.insertedSlots, names]

theorem setFragment_stored (known : context.entity = some entity) (distinct : entity.Distinct)
    (filled : assignments ≠ []) (stored : ∀ assignment ∈ assignments, entity.Stores assignment)
    (unshadowed : ∀ assignment ∈ assignments, entity.Unshadowed assignment.key) :
    context.setFragment assignments =
      (assignments.mapM context.assignmentSlot).map Fragment.updatedSlots := by
  have resolved : assignments.mapM context.resolvedAssignment = .ok assignments :=
    Result.mapM_eq_ok_iff.mpr (List.forall₂_same.mpr fun assignment member =>
      resolvedAssignment_stored known distinct (stored assignment member)
        (unshadowed assignment member))
  obtain ⟨assignment, rest, rfl⟩ := List.exists_cons_of_ne_nil filled
  change ((assignment :: rest).mapM context.resolvedAssignment >>= fun resolved =>
    resolved.mapM context.assignmentFragment >>= fun written => pure _) = _
  rw [resolved]
  change ((assignment :: rest).mapM context.assignmentFragment >>= fun written => pure _) = _
  rw [Result.mapM_map fun item member => assignmentFragment_assign (stored item member).assigns]
  cases (assignment :: rest).mapM context.assignmentSlot <;> rfl

private theorem slots_assign {assignment : Assignment} {part : Fragment}
    (assigns : assignment.op = .assign)
    (written : context.assignmentFragment assignment = .ok part) :
    part.slots = [assignment.slot] := by
  rw [assignmentFragment_assign assigns] at written
  obtain ⟨slot, placed, rfl⟩ := Result.map_eq_ok_iff.mp written
  rw [assignmentSlot_eq placed]
  rfl

private theorem key_of_slots (known : context.entity = some entity)
    {resolved : List Assignment} {parts : List Fragment}
    (assigns : ∀ assignment ∈ assignments, assignment.op = .assign)
    (resolves : List.Forall₂ (fun assignment column =>
      context.resolvedAssignment assignment = .ok column) assignments resolved)
    (writes : List.Forall₂ (fun assignment part =>
      context.assignmentFragment assignment = .ok part) resolved parts)
    (same : parts.flatMap Fragment.slots = assignments.map Assignment.slot) :
    ∀ assignment ∈ assignments, ∃ column, entity.resolve assignment.key = .ok column ∧
      column.column = assignment.key := by
  induction resolves generalizing parts with
  | nil => exact List.forall_mem_nil _
  | cons first _ ih =>
      cases writes with
      | cons firstWritten restWritten =>
          obtain ⟨firstAssigns, restAssign⟩ := List.forall_mem_cons.mp assigns
          obtain ⟨column, found, key, op⟩ := resolvedAssignment_column known first
          rw [List.flatMap_cons, slots_assign (op.trans firstAssigns) firstWritten,
            List.singleton_append, List.map_cons] at same
          obtain ⟨firstSame, restSame⟩ := List.cons.inj same
          refine List.forall_mem_cons.mpr ⟨⟨column, found, ?_⟩, ih restAssign restWritten restSame⟩
          exact key.symm.trans (congrArg Slot.base firstSame)

/-- If an update writes stored values under their own keys, no key is the property of another
column. -/
theorem unshadowed_of_setFragment (known : context.entity = some entity)
    (distinct : entity.Distinct) (stored : ∀ assignment ∈ assignments, entity.Stores assignment)
    (written : context.setFragment assignments =
      .ok (Fragment.updatedSlots (assignments.map Assignment.slot))) :
    ∀ assignment ∈ assignments, entity.Unshadowed assignment.key := by
  obtain ⟨_, resolved, parts, resolves, writes, same⟩ := setFragment_eq_ok_iff.mp written
  have slots : parts.flatMap Fragment.slots = assignments.map Assignment.slot := by
    have slots := congrArg Fragment.slots same
    rwa [Fragment.slots_updatedSlots, Fragment.slots_fixed, Fragment.slots_joined] at slots
  intro assignment member
  obtain ⟨column, found, key⟩ := key_of_slots known
    (fun assignment member => (stored assignment member).assigns) resolves writes slots
    assignment member
  exact distinct.unshadowed_of_resolve found key

end Context

/-!
## INSERT and UPDATE of the same values
-/

/-- The row of a table with the values of slots, each in the column that its slot is named after. -/
def Insert.ofSlots (table : String) (slots : List Slot) : Fragment :=
  .fixed "INSERT INTO " :: .name table :: .fixed " " :: Fragment.insertedSlots slots

/-- The change of a table to the values of slots, each in the column that its slot is named
after. -/
def Update.ofSlots (table : String) (slots : List Slot) : Fragment :=
  .fixed "UPDATE " :: .name table :: .fixed " " :: Fragment.updatedSlots slots

namespace Entity

/-- The row of the entity's table that takes the assignments. -/
def inserting (entity : Entity) (assignments : List Assignment) (settings : Settings) : Insert :=
  ((Insert.intoTable entity.table).assignAll assignments).withSettings settings

/-- The change of the entity's table that takes the assignments. -/
def updating (entity : Entity) (assignments : List Assignment) (settings : Settings) : Update :=
  ((Update.ofEntity entity).assignAll assignments).withSettings settings

variable {entity : Entity} {assignments : List Assignment} {settings : Settings}

theorem stores_assignments {values : List Value}
    (fits : List.Forall₂ (fun column value => Value.Fits value column.dataType)
      entity.columns values) :
    ∀ assignment ∈ entity.assignments values, entity.Stores assignment := by
  intro assignment member
  obtain ⟨⟨column, value⟩, paired, kept⟩ := List.mem_filterMap.mp member
  simp only [Option.ite_none_left_eq_some, Option.some.injEq] at kept
  exact ⟨column, (List.of_mem_zip paired).1, value, (List.forall₂_iff_zip.mp fits).2 paired,
    kept.2.symm⟩

theorem inserting_fragment (filled : assignments ≠ [])
    (stored : ∀ assignment ∈ assignments, entity.Stores assignment) :
    (entity.inserting assignments settings).fragment =
      (assignments.mapM (settings.context none none).assignmentSlot).map
        (Insert.ofSlots entity.table) := by
  have values : (settings.context none none).valuesFragment assignments = _ :=
    Context.valuesFragment_stored filled stored
  obtain ⟨assignment, rest, rfl⟩ := List.exists_cons_of_ne_nil filled
  change ((settings.context none none).valuesFragment (assignment :: rest) >>= fun values =>
    pure _) = _
  rw [values]
  cases (assignment :: rest).mapM (settings.context none none).assignmentSlot <;> rfl

/-- Without a filter a change is its SET clause. -/
private theorem updating_fragment_eq :
    (entity.updating assignments settings).fragment =
      ((settings.context (some .empty) (some entity)).setFragment assignments).map fun set =>
        .fixed "UPDATE " :: .name entity.table :: .fixed " " :: set := by
  change ((settings.context (some .empty) (some entity)).setFragment assignments >>= fun set =>
    pure (.fixed "UPDATE " :: .name entity.table :: .fixed " " :: set ++ [])) = _
  cases (settings.context (some .empty) (some entity)).setFragment assignments with
  | error error => rfl
  | ok set => exact congrArg Except.ok (List.append_nil _)

theorem updating_fragment (distinct : entity.Distinct) (filled : assignments ≠ [])
    (stored : ∀ assignment ∈ assignments, entity.Stores assignment)
    (unshadowed : ∀ assignment ∈ assignments, entity.Unshadowed assignment.key) :
    (entity.updating assignments settings).fragment =
      (assignments.mapM (settings.context none none).assignmentSlot).map
        (Update.ofSlots entity.table) := by
  rw [updating_fragment_eq, Context.setFragment_stored rfl distinct filled stored unshadowed,
    Result.map_map]
  rfl

theorem unshadowed_of_updating (distinct : entity.Distinct)
    (stored : ∀ assignment ∈ assignments, entity.Stores assignment)
    (written : (entity.updating assignments settings).fragment =
      .ok (Update.ofSlots entity.table (assignments.map Assignment.slot))) :
    ∀ assignment ∈ assignments, entity.Unshadowed assignment.key := by
  rw [updating_fragment_eq] at written
  obtain ⟨set, setOk, same⟩ := Result.map_eq_ok_iff.mp written
  have sameSet : set = Fragment.updatedSlots (assignments.map Assignment.slot) :=
    (List.cons.inj (List.cons.inj (List.cons.inj same).2).2).2
  exact Context.unshadowed_of_setFragment rfl distinct stored (setOk.trans (congrArg _ sameSet))

/-- A row and a change of an entity that take the same stored values write the same values to the
same columns, in the same order, exactly if none of the keys is the property of another column. That
holds for all values of the entity if each of its columns resolves to itself. -/
theorem update_insert_agree (distinct : entity.Distinct)
    (stored : ∀ assignment ∈ assignments, entity.Stores assignment) (settings : Settings) :
    let slots := assignments.mapM (settings.context none none).assignmentSlot
    ((∀ column ∈ entity.columns, entity.resolve column.column = .ok column) ↔
      ∀ column ∈ entity.columns, entity.Unshadowed column.column) ∧
    (assignments ≠ [] →
      (entity.inserting assignments settings).build.outcome =
          (slots.map fun slots =>
            Fragment.rendered settings (Insert.ofSlots entity.table slots)) ∧
        ((∀ assignment ∈ assignments, entity.Unshadowed assignment.key) →
          (entity.updating assignments settings).build.outcome =
            slots.map fun slots => Fragment.rendered settings (Update.ofSlots entity.table slots)) ∧
        ∀ given, slots = .ok given →
          given = assignments.map Assignment.slot ∧
          ((entity.updating assignments settings).fragment =
              .ok (Update.ofSlots entity.table given) →
            ∀ assignment ∈ assignments, entity.Unshadowed assignment.key)) ∧
    (assignments = [] → (entity.updating assignments settings).build.outcome =
      .error (.validation "SET clause requires at least one column")) := by
  intro slots
  refine ⟨?_, fun filled => ⟨?_, fun unshadowed => ?_, fun given slotsOk => ?_⟩, ?_⟩
  · exact forall₂_congr fun column member => distinct.resolve_column_iff member
  · change Except.map _ (entity.inserting assignments settings).fragment = _
    rw [inserting_fragment filled stored, Result.map_map]
    rfl
  · change Except.map _ (entity.updating assignments settings).fragment = _
    rw [updating_fragment distinct filled stored unshadowed, Result.map_map]
    rfl
  · have same := Context.assignmentSlots_eq slotsOk
    refine ⟨same, fun written => ?_⟩
    rw [same] at written
    exact unshadowed_of_updating distinct stored written
  · rintro rfl
    rfl

/-- Persons, where the property of the key is called as its column. -/
def samplePerson : Entity where
  name := "Person"
  table := "people"
  columns :=
    [.generatedKey "id" "id" .int64,
      { property := "first_name", column := "Name", dataType := .string },
      { property := "Nick", column := "nick", dataType := .string, nullable := true }]

def samplePersonRow : List Assignment :=
  samplePerson.assignments [.int64 1, .text "Ada", .null]

theorem update_insert_agree_samplePerson :
    samplePerson.Distinct ∧
      (∀ assignment ∈ samplePersonRow, samplePerson.Stores assignment) ∧
      (∀ column ∈ samplePerson.columns, samplePerson.resolve column.column = .ok column) ∧
      (samplePerson.updating samplePersonRow .standard).build.outcome =
        .ok (Fragment.rendered .standard (Update.ofSlots "people"
          [⟨"Name", .text "Ada", .string⟩, ⟨"nick", .null, .string⟩])) ∧
      (samplePerson.inserting samplePersonRow .standard).build.outcome =
        .ok (Fragment.rendered .standard (Insert.ofSlots "people"
          [⟨"Name", .text "Ada", .string⟩, ⟨"nick", .null, .string⟩])) := by
  have distinct : samplePerson.Distinct := ⟨by decide, by decide⟩
  have stored : ∀ assignment ∈ samplePersonRow, samplePerson.Stores assignment :=
    stores_assignments (.cons (.inr (.inr rfl)) (.cons (.inr (.inr rfl)) (.cons (.inl rfl) .nil)))
  have unshadowed : ∀ name ∈ ["id", "Name", "nick"], samplePerson.Unshadowed name := by
    unfold Unshadowed
    decide
  obtain ⟨resolves, written, _⟩ := update_insert_agree distinct stored .standard
  obtain ⟨inserted, updated, _⟩ := written (List.cons_ne_nil _ _)
  refine ⟨distinct, stored, resolves.mpr ?_, (updated ?_).trans rfl, inserted.trans rfl⟩
  · exact fun column member => unshadowed _ (List.mem_map_of_mem member)
  · exact fun assignment member =>
      unshadowed _ (List.mem_cons_of_mem _ (List.mem_map_of_mem (f := Assignment.key) member))

/-- Persons, where the column of one property is called as another property. -/
def sampleShadowed : Entity where
  name := "Person"
  table := "people"
  columns :=
    [{ property := "Name", column := "FullName", dataType := .string },
      { property := "Nick", column := "Name", dataType := .string }]

def sampleShadowedRow : List Assignment :=
  sampleShadowed.assignments [.text "Ada Lovelace", .text "Ada"]

/-- A property goes before a column of the same name, so this update writes to one column twice. -/
theorem update_insert_differ_sampleShadowed :
    sampleShadowed.Distinct ∧
      (∀ assignment ∈ sampleShadowedRow, sampleShadowed.Stores assignment) ∧
      (sampleShadowed.inserting sampleShadowedRow .standard).toSql =
        .ok "INSERT INTO [people] ([FullName],[Name]) VALUES (@FullName_0,@Name_1)" ∧
      (sampleShadowed.updating sampleShadowedRow .standard).toSql =
        .ok "UPDATE [people] SET [FullName]=@FullName_0,[FullName]=@FullName_1" ∧
      ¬ ∀ column ∈ sampleShadowed.columns, sampleShadowed.resolve column.column = .ok column := by
  have stored : ∀ assignment ∈ sampleShadowedRow, sampleShadowed.Stores assignment :=
    stores_assignments (.cons (.inr (.inr rfl)) (.cons (.inr (.inr rfl)) .nil))
  refine ⟨⟨by decide, by decide⟩, stored, by decide +kernel, by decide +kernel, fun resolves => ?_⟩
  exact absurd (resolves ⟨"Nick", "Name", .string, false, false, false⟩ (by decide)) (by decide)

end Entity

end QueryText
