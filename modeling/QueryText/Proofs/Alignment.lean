import QueryText.Proofs.Items
import QueryText.Proofs.Pass

/-!
# Columns and values in line

The columns of an INSERT and its values are two lists in parentheses. A reader finds one item in
each list for every assignment, in the order of the assignments, and the parameters follow that
order too.
-/

set_option autoImplicit false

namespace QueryText

/-- What the values of a new row are written as behind `bound` parameters, and the parameters that
are bound for them. -/
inductive Settings.Inserts (settings : Settings) :
    Nat → List Assignment → List String → List Parameter → Prop where
  | nil {bound : Nat} : Inserts settings bound [] [] []
  | bind {bound : Nat} {assignment : Assignment} {rest : List Assignment} {texts : List String}
      {parameters : List Parameter} :
      assignment.op = .assign → settings.useParameters = true →
      Inserts settings (bound + 1) rest texts parameters →
      Inserts settings bound (assignment :: rest)
        (settings.dialect.marker (parameterName assignment.key bound) :: texts)
        (⟨parameterName assignment.key bound, assignment.value, assignment.dataType⟩ :: parameters)
  | inline {bound : Nat} {assignment : Assignment} {rest : List Assignment} {texts : List String}
      {parameters : List Parameter} {literal : String} :
      assignment.op = .assign → settings.useParameters = false →
      settings.dialect.literal assignment.value = .ok literal →
      Inserts settings bound rest texts parameters →
      Inserts settings bound (assignment :: rest) (literal :: texts) parameters
  | now {bound : Nat} {assignment : Assignment} {rest : List Assignment} {texts : List String}
      {parameters : List Parameter} :
      assignment.op = .now → Inserts settings bound rest texts parameters →
      Inserts settings bound (assignment :: rest) (settings.dialect.now :: texts) parameters
  | sum {bound : Nat} {assignment : Assignment} {rest : List Assignment} {texts : List String}
      {parameters : List Parameter} :
      assignment.op = .add ∨ assignment.op = .subtract →
      Inserts settings bound rest texts parameters →
      Inserts settings bound (assignment :: rest) ("0" :: texts) parameters

namespace Settings

variable {settings : Settings} {bound : Nat} {assignments : List Assignment} {texts : List String}
  {parameters : List Parameter}

theorem Inserts.length (inserts : settings.Inserts bound assignments texts parameters) :
    texts.length = assignments.length := by
  induction inserts with
  | nil => rfl
  | bind _ _ _ ih | inline _ _ _ _ ih | now _ _ ih | sum _ _ ih =>
      rw [List.length_cons, List.length_cons, ih]

theorem Inserts.balanced (inserts : settings.Inserts bound assignments texts parameters) :
    ∀ text ∈ texts, settings.dialect.Balanced 0 text.toList := by
  induction inserts with
  | nil => exact nofun
  | bind _ _ _ ih => exact List.forall_mem_cons.mpr ⟨.marker _ _, ih⟩
  | inline _ _ written _ ih =>
      obtain ⟨writable, rfl⟩ := Dialect.literal_eq_ok_iff.mp written
      exact List.forall_mem_cons.mpr ⟨.literal writable, ih⟩
  | now _ _ ih => exact List.forall_mem_cons.mpr ⟨.now _, ih⟩
  | sum _ _ ih => exact List.forall_mem_cons.mpr ⟨.ofPlain (by decide), ih⟩

/-- The fragments of the inserted values, written one after the other, are what is inserted. -/
theorem Inserts.ofValues {context : Context} {values : List Fragment}
    (mode : context.useParameters = settings.useParameters)
    (inserted : List.Forall₂ (fun assignment value => context.insertedValue assignment = .ok value)
      assignments values) :
    settings.Inserts bound assignments (Fragment.texts settings bound values)
      (if settings.useParameters then Slot.parametersFrom bound (values.flatMap Fragment.slots)
        else []) := by
  -- Only an assigned value moves the position of the next parameter, and only if it is bound.
  induction inserted generalizing bound with
  | nil => cases settings.useParameters <;> exact .nil
  | @cons assignment value others values first _ ih =>
      unfold Context.insertedValue at first
      split at first
      · next assigns =>
        obtain ⟨slot, made, rfl⟩ := Result.map_eq_ok_iff.mp first
        obtain ⟨writable, rfl⟩ := Context.slot_eq_ok_iff.mp made
        cases binds : settings.useParameters with
        | true =>
            have bind := Inserts.bind assigns binds (@ih (bound + 1))
            simpa [Fragment.texts, Settings.slotText, Settings.after, Slot.parametersFrom,
              Slot.parameter, binds] using bind
        | false =>
            have written : settings.dialect.literal assignment.value = .ok _ :=
              Dialect.literal_eq_ok_iff.mpr ⟨writable (mode.trans binds), rfl⟩
            have inline := Inserts.inline assigns binds written (@ih bound)
            simpa [Fragment.texts, Settings.slotText, Settings.after, binds] using inline
      · next stores =>
        cases first
        have now := Inserts.now stores (@ih bound)
        simpa [Fragment.texts, Settings.after_nil] using now
      · next adds =>
        cases first
        have sum := Inserts.sum (.inl adds) (@ih bound)
        simpa [Fragment.texts, Settings.after_nil] using sum
      · next subtracts =>
        cases first
        have sum := Inserts.sum (.inr subtracts) (@ih bound)
        simpa [Fragment.texts, Settings.after_nil] using sum

end Settings

namespace Clause

/-- A rendered VALUES clause is two lists in parentheses. Cut at their commas, the first has the
quoted keys of the assignments, and the second what the assignments insert, in the same order and
number. The parameters that are appended are those of the inserted values. -/
theorem render_values_aligned {settings : Settings} {scope : Option Scope} {entity : Option Entity}
    {before after : Parameters} {assignments : List Assignment} {text : String}
    (written : (Clause.values assignments).render settings scope entity before =
      .ok (text, after)) :
    ∃ columns values inserted parameters,
      text = "(" ++ columns ++ ") VALUES (" ++ values ++ ")" ∧
      settings.dialect.listItems? columns =
        some (assignments.map fun assignment => settings.dialect.quotedName assignment.key) ∧
      settings.dialect.listItems? values = some inserted ∧
      inserted.length = assignments.length ∧
      settings.Inserts before.size assignments inserted parameters ∧
      after.toList = before.toList ++ parameters := by
  obtain ⟨fragment, made, rendered⟩ := Result.bind_eq_ok_iff.mp written
  obtain ⟨rfl, rfl⟩ := Prod.mk.inj (Result.pure_eq_ok_iff.mp rendered)
  obtain ⟨filled, values, each, rfl⟩ := Context.valuesFragment_eq_ok_iff.mp made
  have inserts : settings.Inserts before.size assignments
      (Fragment.texts settings before.size values) _ := .ofValues rfl each
  have keys : ∀ column ∈ assignments.map fun assignment =>
      settings.dialect.quotedName assignment.key, settings.dialect.Balanced 0 column.toList :=
    List.forall_mem_map.mpr fun assignment _ => .quotedName assignment.key
  have silent := Fragment.slots_names assignments Assignment.key
  -- An empty list of values would be read as one empty item.
  have valuesFilled : Fragment.texts settings before.size values ≠ [] := by
    intro empty
    have length := inserts.length
    rw [empty] at length
    exact filled (List.length_eq_zero_iff.mp length.symm)
  have columnsRead := Dialect.listItems?_joined (by simpa using filled) keys
  have valuesRead := Dialect.listItems?_joined valuesFilled inserts.balanced
  refine ⟨_, _, _, _, ?_, columnsRead, valuesRead, inserts.length, inserts, ?_⟩
  · rw [Fragment.text_append, Fragment.text_fixed, Fragment.text_parenthesized,
      Fragment.text_parenthesized, Fragment.text_joined, Fragment.text_joined,
      Fragment.slots_parenthesized, Fragment.slots_joined, Fragment.texts_names, silent,
      Settings.after_nil]
    have between : ") VALUES (" = ")" ++ " VALUES " ++ "(" := rfl
    simp only [parenthesizedText, between, String.append_assoc]
  · rw [Fragment.bind_toList]
    simp [silent]

/-- A row with a comma and a quote in a key, and with commas in a text and in the current time. -/
theorem render_values_aligned_sampleCommas :
    (Clause.values [.set "a,]b" (.text "it's (1,2)"), .now "Seen", .add "Count" (.int32 1)]).render
        ⟨.sqlite, false, true⟩ none none .empty =
      .ok ("([a,]]b],[Seen],[Count]) VALUES " ++
        "('it''s (1,2)',DATETIME(CURRENT_TIMESTAMP, 'localtime'),0)", .empty) ∧
    ∃ columns values inserted,
      "([a,]]b],[Seen],[Count]) VALUES " ++
          "('it''s (1,2)',DATETIME(CURRENT_TIMESTAMP, 'localtime'),0)" =
        "(" ++ columns ++ ") VALUES (" ++ values ++ ")" ∧
      Dialect.sqlite.listItems? columns = some ["[a,]]b]", "[Seen]", "[Count]"] ∧
      Dialect.sqlite.listItems? values = some inserted ∧ inserted.length = 3 := by
  have written : (Clause.values [.set "a,]b" (.text "it's (1,2)"), .now "Seen",
        .add "Count" (.int32 1)]).render ⟨.sqlite, false, true⟩ none none .empty =
      .ok ("([a,]]b],[Seen],[Count]) VALUES " ++
        "('it''s (1,2)',DATETIME(CURRENT_TIMESTAMP, 'localtime'),0)", .empty) := rfl
  obtain ⟨columns, values, inserted, -, whole, columnsRead, valuesRead, length, -, -⟩ :=
    render_values_aligned written
  exact ⟨written, columns, values, inserted, whole, columnsRead, valuesRead, length⟩

end Clause

end QueryText
