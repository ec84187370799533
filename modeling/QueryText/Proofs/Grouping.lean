import QueryText.Mapping.Attribute
import QueryText.Proofs.Result

/-!
# Grouped items

The attributes of a record or of a field are read one after another, and what they say is merged.
Each item adds what it says on its own, so it matters which items there are and in which order, but
not which attributes they stand in.
-/

set_option autoImplicit false

namespace QueryText.Mapping

/-!
## Well-formed items
-/

/-- An item by the grammar of items: a name that is no keyword, with or without a text. -/
structure Entry where
  name : String
  text : Option String := none
  plain : keywords.contains name = false

namespace Entry

def tokens (entry : Entry) : List Token :=
  match entry.text with
  | none => [.word entry.name]
  | some content => [.word entry.name, .punctuation '=', .text content]

theorem tokens_ne_nil (entry : Entry) : entry.tokens ≠ [] := by
  rw [tokens]
  split <;> exact List.cons_ne_nil _ _

theorem checkName (entry : Entry) : checkName entry.name = .ok () := by
  rw [Mapping.checkName, entry.plain]
  rfl

/-- The tokens of items between commas, the last of which may be followed by a comma. -/
inductive Lists : List Entry → List Token → Prop where
  | nil : Lists [] []
  | last (entry : Entry) : Lists [entry] entry.tokens
  | next (entry : Entry) {entries : List Entry} {tokens : List Token}
      (rest : Lists entries tokens) :
      Lists (entry :: entries) (entry.tokens ++ .punctuation ',' :: tokens)

theorem Lists.eq_nil {entries : List Entry} {tokens : List Token} (listed : Lists entries tokens)
    (empty : tokens = []) : entries = [] := by
  cases listed with
  | nil => rfl
  | last entry => exact absurd empty entry.tokens_ne_nil
  | next entry rest =>
      exact absurd empty (List.append_ne_nil_of_right_ne_nil _ (List.cons_ne_nil _ _))

theorem Lists.ofItems {items : List Item} {entries : List Entry}
    (read : List.Forall₂ (fun item entry => item.tokens = entry.tokens) items entries) :
    Lists entries (Item.listTokens items) := by
  induction read with
  | nil => exact .nil
  | @cons item entry others _ first read ih =>
      cases read <;> rw [Item.listTokens, first]
      · exact .last entry
      · exact .next entry ih

/-- The text that the item gives for a name. -/
def textOf? (name : String) (entry : Entry) : Option String :=
  if entry.name = name then entry.text else none

def rule? (entry : Entry) : Option Text.NamingRule :=
  (entry.textOf? "rename_all").bind Text.NamingRule.ofName?

/-- Items of a record all have a text. -/
def OfRecord (entry : Entry) : Prop :=
  entry.text.isSome = true

/-- Of the items of a field, the column has a text and the marks have none. -/
structure OfField (entry : Entry) : Prop where
  column : entry.name = "column" → entry.text.isSome = true
  mark : entry.name = "id" ∨ entry.name = "generated" → entry.text = none

instance (entry : Entry) : Decidable entry.OfRecord :=
  inferInstanceAs (Decidable (entry.text.isSome = true))

instance (entry : Entry) : Decidable entry.OfField :=
  decidable_of_iff
    ((entry.name = "column" → entry.text.isSome = true) ∧
      (entry.name = "id" ∨ entry.name = "generated" → entry.text = none))
    ⟨fun given => ⟨given.1, given.2⟩, fun formed => ⟨formed.column, formed.mark⟩⟩

def recordFault? (entry : Entry) : Option MappingError :=
  if entry.name = "table" then none
  else if entry.name = "rename_all" then
    match entry.rule? with
    | some _ => none
    | none => some (.unknownNamingRule (entry.text.getD ""))
  else some (.unknownRecordItem entry.name)

def fieldFault? (entry : Entry) : Option MappingError :=
  if entry.name = "id" ∨ entry.name = "generated" ∨ entry.name = "column" then none
  else some (.unknownFieldItem entry.name)

end Entry

/-- The attribute holds these items; one that is about something else holds none. -/
def Attribute.Holds (note : Attribute) (entries : List Entry) : Prop :=
  ∃ tokens, note.items? = .ok tokens ∧ Entry.Lists entries (tokens.getD [])

theorem Attribute.holds_mapping {items : List Item} {entries : List Entry}
    (read : List.Forall₂ (fun item entry => item.tokens = entry.tokens) items entries) :
    (mapping items).Holds entries := by
  refine ⟨some (Item.listTokens items), ?_, .ofItems read⟩
  rw [items?, tokens, List.cons_append, List.cons_append]
  simp only [List.dropLast_concat]

/-!
## Readings

What reading the items of records and of fields have in common.
-/

/-- A reader of items, with what it should find in them: faults, and the options that they say
together. -/
structure Reading (Options : Type) where
  empty : Options
  merge : Options → Options → Options
  read : Options → List Token → Except MappingError Options
  Forms : Entry → Prop
  fault? : Entry → Option MappingError
  said : List Entry → Options

namespace Reading

variable {Options : Type} (reading : Reading Options)

def take (options : Options) (entry : Entry) : Except MappingError Options :=
  match reading.fault? entry with
  | some fault => .error fault
  | none => .ok (reading.merge options (reading.said [entry]))

/-- Read on behind an item. -/
def readRest (rest : List Token) (options : Options) : Except MappingError Options :=
  match rest with
  | [] => .ok options
  | .punctuation ',' :: rest => reading.read options rest
  | _ => .error .unexpectedToken

def readAttribute (options : Options) (note : Attribute) : Except MappingError Options := do
  match ← note.items? with
  | some tokens =>
    let later ← reading.read reading.empty tokens
    return reading.merge options later
  | none => return options

/-- The options that the items add to others, or the fault of the first item that has one. -/
def outcome (options : Options) (entries : List Entry) : Except MappingError Options :=
  match entries.findSome? reading.fault? with
  | some fault => .error fault
  | none => .ok (reading.merge options (reading.said entries))

/-- Items are read one by one up to their commas, and merging puts together what they say. -/
structure Lawful : Prop where
  merge_assoc (first second third : Options) :
    reading.merge (reading.merge first second) third =
      reading.merge first (reading.merge second third)
  merge_empty (options : Options) : reading.merge options reading.empty = options
  empty_merge (options : Options) : reading.merge reading.empty options = options
  said_nil : reading.said [] = reading.empty
  said_append (first second : List Entry) :
    reading.said (first ++ second) = reading.merge (reading.said first) (reading.said second)
  read_nil (options : Options) : reading.read options [] = .ok options
  read_entry {entry : Entry} (formed : reading.Forms entry) (options : Options)
    (rest : List Token) :
    reading.read options (entry.tokens ++ rest) =
      reading.take options entry >>= reading.readRest rest

namespace Lawful

variable {reading} (lawful : reading.Lawful)
include lawful

theorem outcome_nil (options : Options) : reading.outcome options [] = .ok options := by
  rw [outcome, lawful.said_nil, lawful.merge_empty]
  rfl

theorem outcome_append (options : Options) (first second : List Entry) :
    reading.outcome options (first ++ second) =
      reading.outcome options first >>= fun later => reading.outcome later second := by
  rw [outcome, outcome, List.findSome?_append, lawful.said_append, ← lawful.merge_assoc]
  cases first.findSome? reading.fault? <;> rfl

theorem outcome_cons (options : Options) (entry : Entry) (entries : List Entry) :
    reading.outcome options (entry :: entries) =
      reading.take options entry >>= fun later => reading.outcome later entries := by
  have single : reading.take options entry = reading.outcome options [entry] := by
    rw [take, outcome, List.findSome?_cons]
    cases reading.fault? entry <;> rfl
  rw [single, ← lawful.outcome_append, List.singleton_append]

theorem outcome_empty (entries : List Entry) :
    reading.outcome reading.empty entries =
      match entries.findSome? reading.fault? with
      | some fault => .error fault
      | none => .ok (reading.said entries) := by
  rw [outcome, lawful.empty_merge]

/-- Options read for themselves and then merged are those that are read on from the others. -/
theorem outcome_merge (options : Options) (entries : List Entry) :
    (reading.outcome reading.empty entries).map (reading.merge options) =
      reading.outcome options entries := by
  rw [lawful.outcome_empty, outcome]
  cases entries.findSome? reading.fault? <;> rfl

theorem read_lists {entries : List Entry} {tokens : List Token}
    (listed : Entry.Lists entries tokens) (formed : ∀ entry ∈ entries, reading.Forms entry)
    (options : Options) : reading.read options tokens = reading.outcome options entries := by
  induction listed generalizing options with
  | nil => rw [lawful.read_nil, lawful.outcome_nil]
  | last entry =>
      rw [← List.append_nil entry.tokens,
        lawful.read_entry (formed entry (List.mem_singleton_self entry)), lawful.outcome_cons]
      exact congrArg _ (funext fun later => (lawful.outcome_nil later).symm)
  | next entry _ ih =>
      obtain ⟨first, others⟩ := List.forall_mem_cons.mp formed
      rw [lawful.read_entry first, lawful.outcome_cons]
      exact congrArg _ (funext (ih others))

theorem readAttribute_holds {note : Attribute} {entries : List Entry} (held : note.Holds entries)
    (formed : ∀ entry ∈ entries, reading.Forms entry) (options : Options) :
    reading.readAttribute options note = reading.outcome options entries := by
  obtain ⟨tokens, found, listed⟩ := held
  rw [readAttribute, found]
  cases tokens with
  | none =>
      rw [listed.eq_nil rfl, lawful.outcome_nil]
      rfl
  | some tokens =>
      rw [← lawful.outcome_merge, ← lawful.read_lists listed formed, Option.getD_some]
      change (reading.read reading.empty tokens >>= _) = _
      cases reading.read reading.empty tokens <;> rfl

/-- Attributes add what all their items add, in order. -/
theorem foldlM_holds {notes : List Attribute} {groups : List (List Entry)}
    (held : List.Forall₂ Attribute.Holds notes groups)
    (formed : ∀ entry ∈ groups.flatten, reading.Forms entry) (options : Options) :
    notes.foldlM reading.readAttribute options = reading.outcome options groups.flatten := by
  induction held generalizing options with
  | nil => exact (lawful.outcome_nil options).symm
  | @cons note entries notes groups first _ ih =>
      rw [List.flatten_cons, List.forall_mem_append] at formed
      rw [List.foldlM_cons, List.flatten_cons, lawful.outcome_append,
        lawful.readAttribute_holds first formed.1]
      exact congrArg _ (funext (ih formed.2))

end Lawful

end Reading

/-!
## Records
-/

namespace RecordOptions

/-- What the items of a record say: the last table and the last naming rule. -/
def said (entries : List Entry) : RecordOptions :=
  { table := (entries.filterMap (Entry.textOf? "table")).getLast?
    naming := (entries.filterMap Entry.rule?).getLast? }

/-- The options of a record by its items, of which the first that has a fault is reported. -/
def ofEntries (entries : List Entry) : Except MappingError RecordOptions :=
  match entries.findSome? Entry.recordFault? with
  | some fault => .error fault
  | none => .ok (said entries)

def reading : Reading RecordOptions where
  empty := {}
  merge := merge
  read := read
  Forms := Entry.OfRecord
  fault? := Entry.recordFault?
  said := said

theorem apply_entry {entry : Entry} {content : String} (given : entry.text = some content)
    (options : RecordOptions) : options.apply entry.name content = reading.take options entry := by
  by_cases table : entry.name = "table"
  · simp [apply, Reading.take, reading, said, merge, Entry.recordFault?, Entry.rule?,
      Entry.textOf?, table, given]
  by_cases naming : entry.name = "rename_all"
  · cases rule : Text.NamingRule.ofName? content <;>
      simp [apply, Reading.take, reading, said, merge, Entry.recordFault?, Entry.rule?,
        Entry.textOf?, naming, given, rule]
  · simp [apply, Reading.take, reading, Entry.recordFault?, table, naming]

theorem reading_lawful : reading.Lawful where
  merge_assoc first second third := by
    simp only [reading, merge, Option.or_assoc]
  merge_empty options := rfl
  empty_merge options := by
    simp only [reading, merge, Option.or_none]
  said_nil := rfl
  said_append first second := by
    simp only [reading, said, merge, List.filterMap_append, List.getLast?_append]
  read_nil options := by simp only [reading, read]
  read_entry {entry} formed options rest := by
    obtain ⟨content, given⟩ := Option.isSome_iff_exists.mp formed
    rw [← apply_entry given, Entry.tokens, given]
    change read options (_ :: _ :: _ :: rest) = _
    rw [read, entry.checkName]
    rfl

theorem ofAttributes_holds {notes : List Attribute} {groups : List (List Entry)}
    (held : List.Forall₂ Attribute.Holds notes groups)
    (formed : ∀ entry ∈ groups.flatten, entry.OfRecord) :
    ofAttributes notes = ofEntries groups.flatten :=
  (reading_lawful.foldlM_holds held formed {}).trans (reading_lawful.outcome_empty groups.flatten)

end RecordOptions

/-!
## Fields
-/

namespace FieldOptions

/-- What the items of a field say: the marks that are among them, and the last column. -/
def said (entries : List Entry) : FieldOptions :=
  { key := entries.any fun entry => entry.name = "id"
    generated := entries.any fun entry => entry.name = "generated"
    column := (entries.filterMap (Entry.textOf? "column")).getLast? }

/-- The options of a field by its items. The first unknown item is reported, and only if there is
none, that what is generated is no key. -/
def ofEntries (entries : List Entry) : Except MappingError FieldOptions :=
  match entries.findSome? Entry.fieldFault? with
  | some fault => .error fault
  | none =>
    if (said entries).generated && !(said entries).key then .error .generatedWithoutKey
    else .ok (said entries)

def reading : Reading FieldOptions where
  empty := {}
  merge := merge
  read := read
  Forms := Entry.OfField
  fault? := Entry.fieldFault?
  said := said

theorem read_column (options : FieldOptions) (content : String) (rest : List Token) :
    read options (.word "column" :: .punctuation '=' :: .text content :: rest) =
      reading.readRest rest { options with column := some content } := by
  rw [read.eq_def]
  rfl

theorem take_column {entry : Entry} {content : String} (named : entry.name = "column")
    (given : entry.text = some content) (options : FieldOptions) :
    reading.take options entry = .ok { options with column := some content } := by
  simp [Reading.take, reading, said, merge, Entry.fieldFault?, Entry.textOf?, named, given]

/-- What a name other than that of the column is taken for. -/
def mark (options : FieldOptions) (name : String) : Except MappingError FieldOptions :=
  if name = "id" then .ok { options with key := true }
  else if name = "generated" then .ok { options with generated := true }
  else .error (.unknownFieldItem name)

theorem read_mark {entry : Entry} (other : entry.name ≠ "column") (options : FieldOptions)
    (rest : List Token) :
    read options (.word entry.name :: rest) =
      options.mark entry.name >>= reading.readRest rest := by
  rw [read, entry.checkName, mark]
  · change (if _ then _ else if _ then _ else _) = _
    split_ifs <;> rfl
  all_goals simp [other]

theorem take_mark {entry : Entry} (other : entry.name ≠ "column") (options : FieldOptions) :
    reading.take options entry = options.mark entry.name := by
  by_cases key : entry.name = "id"
  · simp [Reading.take, reading, said, merge, mark, Entry.fieldFault?, Entry.textOf?, key]
  by_cases generated : entry.name = "generated"
  · simp [Reading.take, reading, said, merge, mark, Entry.fieldFault?, Entry.textOf?, generated]
  · simp [Reading.take, reading, mark, Entry.fieldFault?, key, generated, other]

theorem reading_lawful : reading.Lawful where
  merge_assoc first second third := by
    simp only [reading, merge, Option.or_assoc, Bool.or_assoc]
  merge_empty options := by
    simp only [reading, merge, Bool.or_false, Option.none_or]
  empty_merge options := by
    simp only [reading, merge, Bool.false_or, Option.or_none]
  said_nil := rfl
  said_append first second := by
    simp only [reading, said, merge, List.any_append, List.filterMap_append, List.getLast?_append]
  read_nil options := by simp only [reading, read]
  read_entry {entry} formed options rest := by
    by_cases column : entry.name = "column"
    · obtain ⟨content, given⟩ := Option.isSome_iff_exists.mp (formed.column column)
      rw [take_column column given, Entry.tokens, given, column]
      exact options.read_column content rest
    · rw [take_mark column, Entry.tokens]
      cases given : entry.text with
      | none => exact read_mark column options rest
      | some content =>
          -- Only an unknown item has a text here, and it is reported before its text is read.
          have unmarked : ¬ (entry.name = "id" ∨ entry.name = "generated") := by
            intro marked
            rw [formed.mark marked] at given
            cases given
          obtain ⟨key, generated⟩ := not_or.mp unmarked
          change read options (_ :: _ :: _ :: rest) = _
          rw [read_mark column, mark, if_neg key, if_neg generated]
          rfl

theorem ofAttributes_holds {notes : List Attribute} {groups : List (List Entry)}
    (held : List.Forall₂ Attribute.Holds notes groups)
    (formed : ∀ entry ∈ groups.flatten, entry.OfField) :
    ofAttributes notes = ofEntries groups.flatten := by
  have read := (reading_lawful.foldlM_holds held formed {}).trans
    (reading_lawful.outcome_empty groups.flatten)
  change notes.foldlM readAttribute {} = _ at read
  rw [ofAttributes, read, ofEntries]
  change (match groups.flatten.findSome? Entry.fieldFault? with | some _ => _ | none => _) >>= _ = _
  cases groups.flatten.findSome? Entry.fieldFault? <;> rfl

theorem fieldFault_ne_generatedWithoutKey (entry : Entry) :
    entry.fieldFault? ≠ some .generatedWithoutKey := by
  rw [Entry.fieldFault?]
  split_ifs <;> exact nofun

theorem said_generated (entries : List Entry) :
    (said entries).generated = true ↔ ∃ entry ∈ entries, entry.name = "generated" := by
  simp [said]

theorem said_key (entries : List Entry) :
    (said entries).key = true ↔ ∃ entry ∈ entries, entry.name = "id" := by
  simp [said]

/-- That a key is missing depends on all marks together. -/
theorem ofEntries_generatedWithoutKey (entries : List Entry) :
    ofEntries entries = .error .generatedWithoutKey ↔
      (∀ entry ∈ entries, entry.fieldFault? = none) ∧
        (∃ entry ∈ entries, entry.name = "generated") ∧ ¬ ∃ entry ∈ entries, entry.name = "id" := by
  rw [← said_generated, ← said_key, ← List.findSome?_eq_none_iff, ofEntries]
  cases fault : entries.findSome? Entry.fieldFault? with
  | some found =>
      obtain ⟨entry, _, faulty⟩ := List.exists_of_findSome?_eq_some fault
      have other : found ≠ .generatedWithoutKey := by
        rintro rfl
        exact fieldFault_ne_generatedWithoutKey entry faulty
      simp [other]
  | none => simp

end FieldOptions

/-!
## Groups
-/

/-- However well-formed items are grouped in attributes, they mean what they mean in a single one:
for a record the last table and the last naming rule, for a field all marks and the last column.
The first item that has a fault is reported. If there is none, a field is rejected just when it is
marked as generated, but nowhere as a key. -/
theorem items_grouped {notes : List Attribute} {groups : List (List Entry)} {whole : Attribute}
    (held : List.Forall₂ Attribute.Holds notes groups) (wholeHeld : whole.Holds groups.flatten) :
    ((∀ entry ∈ groups.flatten, entry.OfRecord) →
      RecordOptions.ofAttributes notes = RecordOptions.ofAttributes [whole] ∧
        RecordOptions.ofAttributes notes = RecordOptions.ofEntries groups.flatten) ∧
    ((∀ entry ∈ groups.flatten, entry.OfField) →
      FieldOptions.ofAttributes notes = FieldOptions.ofAttributes [whole] ∧
        FieldOptions.ofAttributes notes = FieldOptions.ofEntries groups.flatten ∧
        (FieldOptions.ofAttributes notes = .error .generatedWithoutKey ↔
          (∀ entry ∈ groups.flatten, entry.fieldFault? = none) ∧
            (∃ entry ∈ groups.flatten, entry.name = "generated") ∧
            ¬ ∃ entry ∈ groups.flatten, entry.name = "id")) := by
  have single : [groups.flatten].flatten = groups.flatten := List.flatten_singleton
  have alone : List.Forall₂ Attribute.Holds [whole] [groups.flatten] := .cons wholeHeld .nil
  constructor
  · intro formed
    have grouped := RecordOptions.ofAttributes_holds held formed
    have together := RecordOptions.ofAttributes_holds alone (single.symm ▸ formed)
    rw [single] at together
    exact ⟨grouped.trans together.symm, grouped⟩
  · intro formed
    have grouped := FieldOptions.ofAttributes_holds held formed
    have together := FieldOptions.ofAttributes_holds alone (single.symm ▸ formed)
    rw [single] at together
    refine ⟨grouped.trans together.symm, grouped, ?_⟩
    rw [grouped]
    exact FieldOptions.ofEntries_generatedWithoutKey groups.flatten

theorem items_grouped_sampleUser :
    RecordOptions.ofAttributes
        [.mapping [⟨"table", some (.text "people")⟩],
          .written "orm(rename_all = \"camelCase\", table = \"users\",)"] =
      .ok { table := some "users", naming := some .camelCase } ∧
    FieldOptions.ofAttributes
        [.mapping [⟨"generated", none⟩],
          .mapping [⟨"column", some (.text "UserId")⟩, ⟨"id", none⟩]] =
      .ok { key := true, generated := true, column := some "UserId" } := by
  have table : (Attribute.mapping [⟨"table", some (.text "people")⟩]).Holds
      [⟨"table", some "people", rfl⟩] := Attribute.holds_mapping (by decide +kernel)
  have both : (Attribute.written "orm(rename_all = \"camelCase\", table = \"users\",)").Holds
      [⟨"rename_all", some "camelCase", rfl⟩, ⟨"table", some "users", rfl⟩] :=
    ⟨some [.word "rename_all", .punctuation '=', .text "camelCase", .punctuation ',',
        .word "table", .punctuation '=', .text "users", .punctuation ','],
      by decide +kernel, .next _ (.next _ .nil)⟩
  have record : (Attribute.mapping [⟨"table", some (.text "people")⟩,
      ⟨"rename_all", some (.text "camelCase")⟩, ⟨"table", some (.text "users")⟩]).Holds
      [⟨"table", some "people", rfl⟩, ⟨"rename_all", some "camelCase", rfl⟩,
        ⟨"table", some "users", rfl⟩] := Attribute.holds_mapping (by decide +kernel)
  have mark : (Attribute.mapping [⟨"generated", none⟩]).Holds [⟨"generated", none, rfl⟩] :=
    Attribute.holds_mapping (by decide +kernel)
  have key : (Attribute.mapping [⟨"column", some (.text "UserId")⟩, ⟨"id", none⟩]).Holds
      [⟨"column", some "UserId", rfl⟩, ⟨"id", none, rfl⟩] :=
    Attribute.holds_mapping (by decide +kernel)
  have field : (Attribute.mapping [⟨"generated", none⟩, ⟨"column", some (.text "UserId")⟩,
      ⟨"id", none⟩]).Holds
      [⟨"generated", none, rfl⟩, ⟨"column", some "UserId", rfl⟩, ⟨"id", none, rfl⟩] :=
    Attribute.holds_mapping (by decide +kernel)
  constructor
  · have grouped := (items_grouped (.cons table (.cons both .nil)) record).1 (by decide)
    exact grouped.2.trans (by decide)
  · have grouped := (items_grouped (.cons mark (.cons key .nil)) field).2 (by decide)
    exact grouped.2.1.trans (by decide)

/-- Without a key, what is generated is not rejected for that when another item is unknown. -/
theorem unknown_before_missingKey :
    FieldOptions.ofAttributes
        [.mapping [⟨"generated", none⟩], .mapping [⟨"unique", none⟩]] =
      .error (.unknownFieldItem "unique") ∧
    ¬ ∀ (notes : List Attribute) (groups : List (List Entry)),
      List.Forall₂ Attribute.Holds notes groups → (∀ entry ∈ groups.flatten, entry.OfField) →
        (FieldOptions.ofAttributes notes = .error .generatedWithoutKey ↔
          (∃ entry ∈ groups.flatten, entry.name = "generated") ∧
            ¬ ∃ entry ∈ groups.flatten, entry.name = "id") := by
  have first : (Attribute.mapping [⟨"generated", none⟩]).Holds [⟨"generated", none, rfl⟩] :=
    Attribute.holds_mapping (by decide +kernel)
  have second : (Attribute.mapping [⟨"unique", none⟩]).Holds [⟨"unique", none, rfl⟩] :=
    Attribute.holds_mapping (by decide +kernel)
  have rejected := FieldOptions.ofAttributes_holds (.cons first (.cons second .nil)) (by decide)
  refine ⟨rejected.trans (by decide), fun claimed => ?_⟩
  have missing := (claimed _ _ (.cons first (.cons second .nil)) (by decide)).mpr (by decide)
  rw [rejected] at missing
  exact absurd missing (by decide)

end QueryText.Mapping
