import QueryText.Proofs.Coercion
import QueryText.Proofs.Removal
import QueryText.Proofs.Selection

/-!
# Membership and equality

To be in a list is to be equal to one of its items, and the items of a list are bound or written as
they are in comparisons with each of them. Only the null is not: a comparison with it becomes a null
test, which is true or false, while in a list it stays a null, with which nothing compares. So a
list differs from the comparisons with its items exactly by what it does with a null.
-/

set_option autoImplicit false

namespace QueryText

/-- The comparisons of a property with the items of a list. -/
def Expr.comparisons (op : Relation) (property : String) (items : List Expr) : List Expr :=
  items.map fun item => .compare op (.property property) item

/-- A property equals one of some items. -/
def Expr.equalsAny (property : String) (first : Expr) (rest : List Expr) : Expr :=
  (comparisons .eq property rest).foldl .or (.compare .eq (.property property) first)

/-- A property differs from each of some items. -/
def Expr.differsFromAll (property : String) (first : Expr) (rest : List Expr) : Expr :=
  (comparisons .ne property rest).foldl .and (.compare .ne (.property property) first)

/-- The comparison of a column with an item whose slot in a list is given. -/
def Condition.itemComparison (op : Relation) (column : String) (slot : Slot) : Condition :=
  if slot.value.isNull then .nullTest (op == .ne) (.column column)
  else .comparison op (.column column) (.slot slot)

/-!
## Nulls keep their slots
-/

namespace Value

theorem isNull_eq_true_iff {value : Value} : value.isNull = true ↔ value = .null := by
  cases value <;> simp [isNull]

end Value

namespace Context

variable {context : Context} {column : ResolvedColumn} {property : String}

theorem partnerSlot_isNull {value : Value} {partner : Option ResolvedColumn} {coerced : Bool}
    {slot : Slot} (placed : context.partnerSlot value partner coerced = .ok slot) :
    slot.value.isNull = value.isNull := by
  unfold partnerSlot at placed
  split at placed
  · split at placed
    · obtain ⟨converted, coercedOk, made⟩ := Result.bind_eq_ok_iff.mp placed
      rw [slot_eq made, Value.coerce_isNull coercedOk]
    · rw [slot_eq placed]
  · rw [slot_eq placed]
  · rw [slot_eq placed]

theorem ItemSlot.isNull_iff {item : Expr} {slot : Slot}
    (placed : context.ItemSlot column item slot) :
    slot.value.isNull = true ↔ context.operand item = .ok (.value .null) := by
  obtain ⟨value, classified, placed⟩ := placed
  rw [partnerSlot_isNull placed, Value.isNull_eq_true_iff, classified.complete, Except.ok.injEq,
    Operand.value.injEq]

/-- A null among the items of a list is a null among their slots. -/
theorem nullItem_iff {items : List Expr} {slots : List Slot}
    (placed : List.Forall₂ (context.ItemSlot column) items slots) :
    (∃ item ∈ items, context.operand item = .ok (.value .null)) ↔
      ∃ slot ∈ slots, slot.value.isNull = true := by
  constructor
  · intro given
    obtain ⟨item, member, null⟩ := given
    obtain ⟨slot, found, placed⟩ := Result.exists_of_mem_left placed member
    exact ⟨slot, found, placed.isNull_iff.mpr null⟩
  · intro given
    obtain ⟨slot, member, null⟩ := given
    obtain ⟨item, found, placed⟩ := Result.exists_of_mem placed member
    exact ⟨item, found, placed.isNull_iff.mp null⟩

/-!
## Conditions of lists and comparisons
-/

theorem Lowers.itemSlots {negated : Bool} {first : Expr} {rest : List Expr} {condition : Condition}
    (lowered : context.Lowers (.inList negated (.property property) (first :: rest)) condition)
    (known : context.column property = .ok column) :
    ∃ slot slots, context.ItemSlot column first slot ∧
      List.Forall₂ (context.ItemSlot column) rest slots := by
  cases lowered with
  | list classified _ placed =>
      cases classified with
      | property found =>
          obtain rfl := Except.ok.inj (found.symm.trans known)
          cases placed with
          | cons firstPlaced restPlaced => exact ⟨_, _, firstPlaced, restPlaced⟩

/-- An item takes the same slot in a comparison as in a list, but a null takes none. -/
theorem ItemSlot.lowers (known : context.column property = .ok column) {item : Expr} {slot : Slot}
    (placed : context.ItemSlot column item slot) (op : Relation) :
    context.condition (.compare op (.property property) item) =
      .ok (.itemComparison op column.name slot) := by
  have nullIff := placed.isNull_iff
  obtain ⟨value, classified, placed⟩ := placed
  have left : context.Classifies (.property property) (.column column) := .property known
  rw [Condition.itemComparison]
  by_cases null : slot.value.isNull = true
  · rw [if_pos null]
    have nullItem := Classifies.sound (nullIff.mp null)
    exact (Lowers.nullRight left nullItem rfl .column).complete
  · rw [if_neg null]
    have notNull : Operand.value value ≠ .value .null := by
      intro same
      cases same
      exact null (nullIff.mpr classified.complete)
    exact (Lowers.compared left classified nofun notNull rfl .column (.value placed)).complete

theorem comparisons_lowered (known : context.column property = .ok column) {items : List Expr}
    {slots : List Slot} (placed : List.Forall₂ (context.ItemSlot column) items slots)
    (op : Relation) :
    (Expr.comparisons op property items).mapM context.condition =
      .ok (slots.map (Condition.itemComparison op column.name)) := by
  rw [Result.mapM_eq_ok_iff, Expr.comparisons, List.forall₂_map_left_iff,
    List.forall₂_map_right_iff]
  exact placed.imp fun item slot placed => placed.lowers known op

variable {first : Expr} {rest : List Expr} {slot : Slot} {slots : List Slot}

theorem equalsAny_lowered (known : context.column property = .ok column)
    (firstPlaced : context.ItemSlot column first slot)
    (restPlaced : List.Forall₂ (context.ItemSlot column) rest slots) :
    context.condition (.equalsAny property first rest) =
      .ok ((slots.map (.itemComparison .eq column.name)).foldl .or
        (.itemComparison .eq column.name slot)) := by
  rw [Expr.equalsAny, condition_foldl (fun _ _ => rfl), firstPlaced.lowers known,
    comparisons_lowered known restPlaced]
  rfl

theorem differsFromAll_lowered (known : context.column property = .ok column)
    (firstPlaced : context.ItemSlot column first slot)
    (restPlaced : List.Forall₂ (context.ItemSlot column) rest slots) :
    context.condition (.differsFromAll property first rest) =
      .ok ((slots.map (.itemComparison .ne column.name)).foldl .and
        (.itemComparison .ne column.name slot)) := by
  rw [Expr.differsFromAll, condition_foldl_and, firstPlaced.lowers known,
    comparisons_lowered known restPlaced]
  rfl

end Context

/-!
## Truth of lists and comparisons
-/

section Truth

variable {Datum : Type} {database : Database Datum} {cell : String → Option Datum}
  {placed : Slot → Option Datum}

namespace Condition

theorem foldl_or_holds_iff {first : Condition} {rest : List Condition} :
    (rest.foldl .or first).truthValue database cell placed = .holds ↔
      ∃ condition ∈ first :: rest, condition.truthValue database cell placed = .holds := by
  induction rest generalizing first with
  | nil => simp
  | cons next rest ih =>
      rw [List.foldl_cons, ih]
      simp only [List.exists_mem_cons_iff, truthValue, Truth.or_eq_holds_iff, or_assoc]

theorem foldl_and_holds_iff {first : Condition} {rest : List Condition} :
    (rest.foldl .and first).truthValue database cell placed = .holds ↔
      ∀ condition ∈ first :: rest, condition.truthValue database cell placed = .holds := by
  induction rest generalizing first with
  | nil => simp
  | cons next rest ih =>
      rw [List.foldl_cons, ih]
      simp only [List.forall_mem_cons, truthValue, Truth.and_eq_holds_iff, and_assoc]

variable {column : String} {slot : Slot} {slots : List Slot}

theorem anyItem_holds_iff {op : Relation} :
    ((slots.map (itemComparison op column)).foldl .or (itemComparison op column slot)).truthValue
        database cell placed = .holds ↔
      ∃ item ∈ slot :: slots, (itemComparison op column item).truthValue database cell placed =
        .holds := by
  rw [foldl_or_holds_iff, ← List.map_cons]
  simp only [List.mem_map, exists_exists_and_eq_and]

theorem allItems_hold_iff {op : Relation} :
    ((slots.map (itemComparison op column)).foldl .and (itemComparison op column slot)).truthValue
        database cell placed = .holds ↔
      ∀ item ∈ slot :: slots, (itemComparison op column item).truthValue database cell placed =
        .holds := by
  rw [foldl_and_holds_iff, ← List.map_cons]
  exact List.forall_mem_map

theorem inList_holds_iff :
    (inList false column slots).truthValue database cell placed = .holds ↔
      ∃ slot ∈ slots, database.compared .eq (cell column) (placed slot) = .holds := by
  rw [truthValue, Database.listed, if_neg Bool.false_ne_true, Truth.any_eq_holds_iff, List.map_map]
  simp only [List.mem_map, exists_exists_and_eq_and, Function.comp]

theorem notInList_holds_iff :
    (inList true column slots).truthValue database cell placed = .holds ↔
      ∀ slot ∈ slots, database.compared .eq (cell column) (placed slot) = .fails := by
  rw [truthValue, Database.listed, if_pos rfl, Truth.not_eq_holds_iff, Truth.any_eq_fails_iff,
    List.map_map]
  simp only [List.forall_mem_map, Function.comp]

theorem itemComparison_null (null : slot.value.isNull = true) (op : Relation) :
    (itemComparison op column slot).truthValue database cell placed =
      Database.nullTested (op == .ne) (cell column) := by
  rw [itemComparison, if_pos null]
  rfl

theorem itemComparison_notNull (notNull : slot.value.isNull = false) (op : Relation) :
    (itemComparison op column slot).truthValue database cell placed =
      database.compared op (cell column) (placed slot) := by
  rw [itemComparison, notNull]
  rfl

/-- On a null the comparison with an item holds exactly if the item is the null. -/
theorem itemComparison_null_holds_iff (nullCell : cell column = none) :
    (itemComparison .eq column slot).truthValue database cell placed = .holds ↔
      slot.value.isNull = true := by
  cases null : slot.value.isNull with
  | true =>
      rw [itemComparison_null null, nullCell]
      exact ⟨fun _ => rfl, fun _ => rfl⟩
  | false =>
      rw [itemComparison_notNull null, nullCell]
      exact ⟨nofun, nofun⟩

variable (nulls : ∀ slot : Slot, slot.value.isNull = true → placed slot = none)

include nulls

/-- An item is found where the comparison with it holds, only not in a null. -/
theorem found_iff :
    database.compared .eq (cell column) (placed slot) = .holds ↔
      (itemComparison .eq column slot).truthValue database cell placed = .holds ∧
        cell column ≠ none := by
  cases null : slot.value.isNull with
  | true =>
      rw [itemComparison_null null, nulls slot null, Database.compared_null]
      refine ⟨nofun, fun ⟨tested, filled⟩ => ?_⟩
      obtain ⟨datum, present⟩ := Option.ne_none_iff_exists'.mp filled
      rw [present] at tested
      cases tested
  | false =>
      rw [itemComparison_notNull null]
      refine ⟨fun holds => ⟨holds, fun nullCell => ?_⟩, And.left⟩
      rw [nullCell] at holds
      cases holds

/-- An item that is not the null is missed where the comparison with it holds; a null is never
missed. -/
theorem missed_iff :
    database.compared .eq (cell column) (placed slot) = .fails ↔
      (itemComparison .ne column slot).truthValue database cell placed = .holds ∧
        slot.value.isNull = false := by
  cases null : slot.value.isNull with
  | true =>
      rw [nulls slot null, Database.compared_null]
      exact ⟨nofun, fun given => nomatch given.2⟩
  | false =>
      rw [itemComparison_notNull null, Database.compared_ne_eq_holds_iff]
      exact ⟨fun fails => ⟨fails, rfl⟩, And.left⟩

end Condition

end Truth

/-!
## Selected rows
-/

namespace Clause

/-- A list selects the rows that the comparisons with its items select, except for what it does
with a null among the items. Then the rows whose column is null are selected by the comparisons and
not by the list, and a negated list selects no row at all. -/
theorem render_membership_selects {settings : Settings} {scope : Option Scope}
    {entity : Option Entity} {before : Parameters} {property : String} {column : ResolvedColumn}
    {first : Expr} {rest : List Expr} {listed equal unlisted different : String × Parameters}
    (known : (settings.context scope entity).column property = .ok column)
    (listedOk : (predicate (.inList false (.property property) (first :: rest))).render settings
      scope entity before = .ok listed)
    (equalOk : (predicate (.equalsAny property first rest)).render settings scope entity before =
      .ok equal)
    (unlistedOk : (predicate (.inList true (.property property) (first :: rest))).render settings
      scope entity before = .ok unlisted)
    (differentOk : (predicate (.differsFromAll property first rest)).render settings scope entity
      before = .ok different)
    {Datum : Type} (database : Database Datum) (cells : Cells Datum) :
    let nullCell := settings.dialect.cell cells column.name = none
    let nullItem := ∃ item ∈ first :: rest,
      (settings.context scope entity).operand item = .ok (.value .null)
    (database.Selects settings.dialect cells listed ↔
        database.Selects settings.dialect cells equal ∧ ¬(nullItem ∧ nullCell)) ∧
      (nullItem ∧ nullCell → database.Selects settings.dialect cells equal) ∧
      (database.Selects settings.dialect cells unlisted ↔
        database.Selects settings.dialect cells different ∧ ¬nullItem) := by
  intro nullCell nullItem
  obtain ⟨condition, lowered, _, _⟩ := render_predicate_eq_ok_iff.mp listedOk
  obtain ⟨firstSlot, slots, firstPlaced, restPlaced⟩ := lowered.itemSlots known
  have placed := List.Forall₂.cons firstPlaced restPlaced
  have listLowered : ∀ negated, (settings.context scope entity).condition
      (.inList negated (.property property) (first :: rest)) =
        .ok (.inList negated column.name (firstSlot :: slots)) := fun negated =>
    (Context.Lowers.list (.property known) (List.cons_ne_nil first rest) placed).complete
  have nulls : ∀ slot : Slot, slot.value.isNull = true → settings.slotDatum database slot = none :=
    fun slot null => Settings.slotDatum_null (Value.isNull_eq_true_iff.mp null)
  have nullSlot : nullItem ↔ ∃ slot ∈ firstSlot :: slots, slot.value.isNull = true :=
    Context.nullItem_iff placed
  have listedIff := (selects_iff listedOk (listLowered false) database cells).trans
    Condition.inList_holds_iff
  have unlistedIff := (selects_iff unlistedOk (listLowered true) database cells).trans
    Condition.notInList_holds_iff
  have equalIff := (selects_iff equalOk
    (Context.equalsAny_lowered known firstPlaced restPlaced) database cells).trans
      Condition.anyItem_holds_iff
  have differentIff := (selects_iff differentOk
    (Context.differsFromAll_lowered known firstPlaced restPlaced) database cells).trans
      Condition.allItems_hold_iff
  rw [listedIff, unlistedIff, equalIff, differentIff, nullSlot]
  simp only [Condition.found_iff nulls, Condition.missed_iff nulls]
  refine ⟨⟨?_, ?_⟩, ?_, ⟨?_, ?_⟩⟩
  · intro found
    obtain ⟨slot, member, holds, filled⟩ := found
    exact ⟨⟨slot, member, holds⟩, fun ⟨_, null⟩ => filled null⟩
  · intro given
    obtain ⟨⟨slot, member, holds⟩, noNulls⟩ := given
    refine ⟨slot, member, holds, fun null => noNulls ⟨⟨slot, member, ?_⟩, null⟩⟩
    exact (Condition.itemComparison_null_holds_iff null).mp holds
  · intro given
    obtain ⟨⟨slot, member, null⟩, nullCell⟩ := given
    exact ⟨slot, member, (Condition.itemComparison_null_holds_iff nullCell).mpr null⟩
  · intro missed
    refine ⟨fun slot member => (missed slot member).1, fun given => ?_⟩
    obtain ⟨slot, member, null⟩ := given
    rw [(missed slot member).2] at null
    cases null
  · intro given
    obtain ⟨differ, noNulls⟩ := given
    intro slot member
    refine ⟨differ slot member, Bool.eq_false_iff.mpr fun null => ?_⟩
    exact noNulls ⟨slot, member, null⟩

/-- A database of integers, in which a division by zero is null. -/
def sampleIntegers : Database Int where
  literal lexemes :=
    if lexemes = "NULL".toList.map .plain then none
    else (String.ofList (Lexeme.plains lexemes)).toInt?
  parameter := Value.integer?
  compares op left right := op.accepts (compare left right)
  computes op left right := if op = .divide ∧ right = 0 then none else some (op.exact left right)
  resembles left right := left == right
  literal_null := if_pos rfl
  parameter_null := rfl
  compares_ne _ _ := rfl

def sampleSum : Expr :=
  .arithmetic .add (.literal (.int32 1)) (.literal (.int32 1))

/-- With a null beside the sum the row whose column is null is lost to the list, and a row with
another number is lost to the negated list. -/
theorem render_membership_selects_sampleSum :
    let render := fun expr => (predicate expr).render .standard none none .empty
    let nullRow : Cells Int := fun _ => none
    let otherRow : Cells Int := fun _ => some 5
    ∃ listed equal unlisted different,
      render (.inList false (.property "Id") [sampleSum, .literal .null]) = .ok listed ∧
      render (.equalsAny "Id" sampleSum [.literal .null]) = .ok equal ∧
      render (.inList true (.property "Id") [sampleSum, .literal .null]) = .ok unlisted ∧
      render (.differsFromAll "Id" sampleSum [.literal .null]) = .ok different ∧
      listed.1 = "[Id] IN (@Id_0,@Id_1)" ∧
      equal.1 = "([Id] = @Id_0) OR ([Id] IS NULL)" ∧
      unlisted.1 = "[Id] NOT IN (@Id_0,@Id_1)" ∧
      different.1 = "([Id] <> @Id_0) AND ([Id] IS NOT NULL)" ∧
      sampleIntegers.Selects .sqlServer nullRow equal ∧
      ¬sampleIntegers.Selects .sqlServer nullRow listed ∧
      sampleIntegers.Selects .sqlServer otherRow different ∧
      ¬sampleIntegers.Selects .sqlServer otherRow unlisted := by
  intro render nullRow otherRow
  have rendered : ∀ expr text, (render expr).toOption.map Prod.fst = some text →
      ∃ result, render expr = .ok result ∧ result.1 = text := by
    intro expr text given
    cases success : render expr with
    | error error =>
        rw [success] at given
        cases given
    | ok result =>
        rw [success] at given
        exact ⟨result, rfl, Option.some.inj given⟩
  obtain ⟨listed, listedOk, listedText⟩ := rendered
    (.inList false (.property "Id") [sampleSum, .literal .null]) "[Id] IN (@Id_0,@Id_1)"
    (by decide +kernel)
  obtain ⟨equal, equalOk, equalText⟩ := rendered (.equalsAny "Id" sampleSum [.literal .null])
    "([Id] = @Id_0) OR ([Id] IS NULL)" (by decide +kernel)
  obtain ⟨unlisted, unlistedOk, unlistedText⟩ := rendered
    (.inList true (.property "Id") [sampleSum, .literal .null]) "[Id] NOT IN (@Id_0,@Id_1)"
    (by decide +kernel)
  obtain ⟨different, differentOk, differentText⟩ := rendered
    (.differsFromAll "Id" sampleSum [.literal .null]) "([Id] <> @Id_0) AND ([Id] IS NOT NULL)"
    (by decide +kernel)
  have known : (Settings.standard.context none none).column "Id" = .ok ⟨"Id", none⟩ := rfl
  have nullItem : ∃ item ∈ [sampleSum, .literal .null],
      (Settings.standard.context none none).operand item = .ok (.value .null) :=
    ⟨.literal .null, List.mem_cons_of_mem _ (List.mem_cons_self ..), rfl⟩
  obtain ⟨listedIff, equalHolds, _⟩ := render_membership_selects known listedOk equalOk unlistedOk
    differentOk sampleIntegers nullRow
  obtain ⟨_, _, unlistedIff⟩ := render_membership_selects known listedOk equalOk unlistedOk
    differentOk sampleIntegers otherRow
  refine ⟨listed, equal, unlisted, different, listedOk, equalOk, unlistedOk, differentOk,
    listedText, equalText, unlistedText, differentText, equalHolds ⟨nullItem, rfl⟩, ?_, ?_, ?_⟩
  · exact fun selected => (listedIff.mp selected).2 ⟨nullItem, rfl⟩
  · exact (selects_iff differentOk rfl sampleIntegers otherRow).mpr (by decide +kernel)
  · exact fun selected => (unlistedIff.mp selected).2 nullItem

end Clause

end QueryText
