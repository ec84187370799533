import Mathlib.Data.Ordering.Basic
import QueryText.Value.Comparison

/-!
# Host order

What a comparison sees of a value is its comparand: a truth value, an integer of whatever size, a
text, a moment, a day, an identifier or some bytes. Comparands of one kind are linearly ordered, and
those of different kinds do not compare. So the six relations fit together, and values of integer
types of different sizes take the same places in the order. Doubles stay apart: an integer is
rounded when it meets one.
-/

set_option autoImplicit false

namespace QueryText

/-!
## Orders of the calendar and of identifiers
-/

namespace Date

instance : Std.TransOrd Date :=
  inferInstanceAs <| Std.TransCmp <|
    compareLex (compareOn Date.year) (compareLex (compareOn Date.month) (compareOn Date.day))

instance : Std.LawfulEqOrd Date where
  eq_of_compare := by
    intro left right same
    obtain ⟨year, same⟩ := compareLex_eq_eq.mp same
    obtain ⟨month, day⟩ := compareLex_eq_eq.mp same
    cases left
    cases right
    cases Std.LawfulEqOrd.eq_of_compare year
    cases Std.LawfulEqOrd.eq_of_compare month
    cases Std.LawfulEqOrd.eq_of_compare day
    rfl

end Date

namespace DateTime

instance : Std.TransOrd DateTime :=
  inferInstanceAs <| Std.TransCmp <|
    compareLex (compareOn DateTime.date) <| compareLex (compareOn DateTime.hour) <|
      compareLex (compareOn DateTime.minute) <| compareLex (compareOn DateTime.second)
        (compareOn DateTime.nanos)

instance : Std.LawfulEqOrd DateTime where
  eq_of_compare := by
    intro left right same
    obtain ⟨date, same⟩ := compareLex_eq_eq.mp same
    obtain ⟨hour, same⟩ := compareLex_eq_eq.mp same
    obtain ⟨minute, same⟩ := compareLex_eq_eq.mp same
    obtain ⟨second, nanos⟩ := compareLex_eq_eq.mp same
    cases left
    cases right
    cases Std.LawfulEqOrd.eq_of_compare date
    cases Std.LawfulEqOrd.eq_of_compare hour
    cases Std.LawfulEqOrd.eq_of_compare minute
    cases Std.LawfulEqOrd.eq_of_compare second
    cases Std.LawfulEqOrd.eq_of_compare nanos
    rfl

end DateTime

namespace Uuid

instance : Std.TransOrd Uuid :=
  inferInstanceAs (Std.TransCmp (compareOn Uuid.bits))

instance : Std.LawfulEqOrd Uuid where
  eq_of_compare := by
    intro left right same
    cases left
    cases right
    exact congrArg Uuid.mk (Std.LawfulEqOrd.eq_of_compare same)

end Uuid

/-!
## Comparands
-/

/-- What a comparison sees of a value. -/
inductive Comparand where
  | bool (value : Bool)
  | integer (number : Int)
  | text (value : String)
  | dateTime (value : DateTime)
  | date (value : Date)
  | uuid (value : Uuid)
  | bytes (value : List UInt8)

namespace Comparand

/-- The order of two comparands of one kind. -/
def ordering? : Comparand → Comparand → Option Ordering
  | .bool left, .bool right => some (compare left right)
  | .integer left, .integer right => some (compare left right)
  | .text left, .text right => some (compare left right)
  | .dateTime left, .dateTime right => some (compare left right)
  | .date left, .date right => some (compare left right)
  | .uuid left, .uuid right => some (compare left right)
  | .bytes left, .bytes right => some (compare left right)
  | _, _ => none

variable {first second third : Comparand}

theorem ordering?_swap (first second : Comparand) :
    second.ordering? first = (first.ordering? second).map Ordering.swap := by
  cases first <;> cases second <;>
    first | rfl | exact congrArg some Std.OrientedCmp.eq_swap

theorem ordering?_eq_some_eq_iff : first.ordering? second = some .eq ↔ first = second := by
  cases first <;> cases second <;> simp [ordering?]

theorem ordering?_lt_trans (less : first.ordering? second = some .lt)
    (lessToo : second.ordering? third = some .lt) : first.ordering? third = some .lt := by
  cases first <;> cases second <;> simp only [ordering?, Option.some.injEq, reduceCtorEq] at less
  all_goals cases third <;> simp only [ordering?, Option.some.injEq, reduceCtorEq] at lessToo
  all_goals exact congrArg some (Std.TransCmp.lt_trans less lessToo)

end Comparand

/-!
## Comparisons of comparands
-/

namespace Relation

/-- The relation that holds between the sides in the other order. -/
def mirrored : Relation → Relation
  | .eq => .eq
  | .ne => .ne
  | .lt => .gt
  | .le => .ge
  | .gt => .lt
  | .ge => .le

theorem accepts_mirrored (op : Relation) (ordering : Ordering) :
    op.mirrored.accepts ordering.swap = op.accepts ordering := by
  cases op <;> cases ordering <;> rfl

end Relation

namespace Value

/-- What a comparison sees of a value, which must be no null and no double. -/
def comparand? : Value → Option Comparand
  | .null | .double _ => none
  | .bool value => some (.bool value)
  | .int16 value => some (.integer value.toInt)
  | .int32 value => some (.integer value.toInt)
  | .int64 value => some (.integer value.toInt)
  | .text value => some (.text value)
  | .dateTime value => some (.dateTime value)
  | .date value => some (.date value)
  | .uuid value => some (.uuid value)
  | .bytes value => some (.bytes value)

/-- Whether two values are of the same type or both integers. -/
def Comparable (left right : Value) : Prop :=
  left.dataType = right.dataType ∨
    left.dataType.isInteger = true ∧ right.dataType.isInteger = true

instance (left right : Value) : Decidable (left.Comparable right) :=
  inferInstanceAs (Decidable (_ ∨ _))

variable {left right : Value} {leftSeen rightSeen : Comparand}

/-- Of the values that are no doubles, a comparison sees all but the null. -/
theorem isNull_iff (exact : left.dataType ≠ .double) :
    left.isNull = true ↔ left.comparand? = none := by
  cases left with
  | double => exact absurd rfl exact
  | _ => simp [isNull, comparand?]

theorem exists_comparand (exact : left.dataType ≠ .double) (notNull : left.isNull = false) :
    ∃ seen, left.comparand? = some seen := by
  refine Option.ne_none_iff_exists'.mp fun unseen => ?_
  rw [(isNull_iff exact).mpr unseen] at notNull
  cases notNull

theorem comparable_iff (leftSees : left.comparand? = some leftSeen)
    (rightSees : right.comparand? = some rightSeen) :
    left.Comparable right ↔ leftSeen.ordering? rightSeen ≠ none := by
  cases left <;> cases leftSees <;> cases right <;> cases rightSees <;>
    simp [Comparable, dataType, DataType.isInteger, Comparand.ordering?]

/-- A comparison looks at nothing but the comparands, except for its errors. -/
theorem compared_seen (op : Relation) (leftSees : left.comparand? = some leftSeen)
    (rightSees : right.comparand? = some rightSeen) :
    compared op left right =
      match leftSeen.ordering? rightSeen with
      | some ordering => .ok (op.accepts ordering)
      | none => .error (.wrongType "comparison" left.dataType right.dataType) := by
  cases left <;> cases leftSees <;> cases right <;> cases rightSees <;> rfl

theorem compared_null (op : Relation) (null : left.isNull = true ∨ right.isNull = true) :
    compared op left right =
      .ok (if left.isNull = true ∧ right.isNull = true then op == .eq else op == .ne) := by
  rw [compared, if_pos null]
  split <;> rfl

/-!
## What holds
-/

/-- A relation is found to hold between two values. -/
def Holds (op : Relation) (left right : Value) : Prop :=
  compared op left right = .ok true

theorem holds_seen_iff {op : Relation} (leftSees : left.comparand? = some leftSeen)
    (rightSees : right.comparand? = some rightSeen) :
    Holds op left right ↔
      ∃ ordering, leftSeen.ordering? rightSeen = some ordering ∧ op.accepts ordering = true := by
  rw [Holds, compared_seen op leftSees rightSees]
  cases leftSeen.ordering? rightSeen with
  | none => simp
  | some ordering => simp

theorem holds_eq_null_iff (null : left.isNull = true ∨ right.isNull = true) :
    Holds .eq left right ↔ left.isNull = true ∧ right.isNull = true := by
  rw [Holds, compared_null .eq null]
  split
  · next both => exact iff_of_true rfl both
  · next one => exact iff_of_false nofun one

/-- Less is what comparands of one kind are in their order. -/
theorem holds_lt_iff (leftExact : left.dataType ≠ .double)
    (rightExact : right.dataType ≠ .double) :
    Holds .lt left right ↔
      ∃ leftSeen rightSeen, left.comparand? = some leftSeen ∧ right.comparand? = some rightSeen ∧
        leftSeen.ordering? rightSeen = some .lt := by
  cases leftSees : left.comparand? with
  | none =>
      have null := (isNull_iff leftExact).mpr leftSees
      simp [Holds, compared_null .lt (.inl null)]
  | some leftSeen =>
      cases rightSees : right.comparand? with
      | none =>
          have null := (isNull_iff rightExact).mpr rightSees
          simp [Holds, compared_null .lt (.inr null)]
      | some rightSeen => simp [holds_seen_iff leftSees rightSees, Relation.accepts]

/-- Values are equal that a comparison sees as the same. -/
theorem holds_eq_iff (leftExact : left.dataType ≠ .double)
    (rightExact : right.dataType ≠ .double) :
    Holds .eq left right ↔ left.comparand? = right.comparand? := by
  have leftNull := isNull_iff leftExact
  have rightNull := isNull_iff rightExact
  cases leftSees : left.comparand? with
  | none =>
      rw [holds_eq_null_iff (.inl (leftNull.mpr leftSees)), leftNull, rightNull]
      simp [leftSees, eq_comm]
  | some leftSeen =>
      cases rightSees : right.comparand? with
      | none =>
          rw [holds_eq_null_iff (.inr (rightNull.mpr rightSees)), leftNull, rightNull]
          simp [leftSees]
      | some rightSeen =>
          simp [holds_seen_iff leftSees rightSees, Relation.accepts,
            Comparand.ordering?_eq_some_eq_iff]

/-- The relations decide two values, and fit together. -/
structure Ordered (left right : Value) : Prop where
  decided : ∀ op, ∃ holds, compared op left right = .ok holds
  one :
    Holds .lt left right ∧ ¬Holds .eq left right ∧ ¬Holds .gt left right ∨
    ¬Holds .lt left right ∧ Holds .eq left right ∧ ¬Holds .gt left right ∨
    ¬Holds .lt left right ∧ ¬Holds .eq left right ∧ Holds .gt left right
  le : Holds .le left right ↔ Holds .lt left right ∨ Holds .eq left right
  ge : Holds .ge left right ↔ Holds .gt left right ∨ Holds .eq left right
  ne : Holds .ne left right ↔ ¬Holds .eq left right
  mirrored : ∀ op : Relation, compared op.mirrored right left = compared op left right

theorem ordered_seen {ordering : Ordering} (leftSees : left.comparand? = some leftSeen)
    (rightSees : right.comparand? = some rightSeen)
    (ordered : leftSeen.ordering? rightSeen = some ordering) : left.Ordered right := by
  have decided : ∀ op, compared op left right = .ok (op.accepts ordering) := fun op => by
    rw [compared_seen op leftSees rightSees, ordered]
  have swapped : rightSeen.ordering? leftSeen = some ordering.swap := by
    rw [Comparand.ordering?_swap, ordered]
    rfl
  have mirrored (op : Relation) : compared op.mirrored right left = .ok (op.accepts ordering) := by
    rw [compared_seen _ rightSees leftSees, swapped]
    exact congrArg Except.ok (op.accepts_mirrored ordering)
  have holds (op : Relation) : Holds op left right ↔ op.accepts ordering = true := by
    rw [Holds, decided, Except.ok.injEq]
  refine ⟨fun op => ⟨_, decided op⟩, ?_, ?_, ?_, ?_,
    fun op => (mirrored op).trans (decided op).symm⟩
  all_goals
    simp only [holds]
    cases ordering <;> decide

/-- Values that are neither null nor doubles are in order, or they do not compare at all. -/
theorem ordered_or_fails (leftExact : left.dataType ≠ .double)
    (rightExact : right.dataType ≠ .double) (leftNull : left.isNull = false)
    (rightNull : right.isNull = false) :
    ¬left.Comparable right ∧
        (∀ op, compared op left right =
          .error (.wrongType "comparison" left.dataType right.dataType)) ∧
        (∀ op, compared op right left =
          .error (.wrongType "comparison" right.dataType left.dataType)) ∨
      left.Comparable right ∧ left.Ordered right := by
  obtain ⟨leftSeen, leftSees⟩ := exists_comparand leftExact leftNull
  obtain ⟨rightSeen, rightSees⟩ := exists_comparand rightExact rightNull
  rw [comparable_iff leftSees rightSees]
  cases ordered : leftSeen.ordering? rightSeen with
  | none =>
      have swapped : rightSeen.ordering? leftSeen = none := by
        rw [Comparand.ordering?_swap, ordered]
        rfl
      refine .inl ⟨fun some => some rfl, fun op => ?_, fun op => ?_⟩
      · rw [compared_seen op leftSees rightSees, ordered]
      · rw [compared_seen op rightSees leftSees, swapped]
  | some ordering => exact .inr ⟨nofun, ordered_seen leftSees rightSees ordered⟩

theorem Holds.lt_trans {last : Value} (leftExact : left.dataType ≠ .double)
    (rightExact : right.dataType ≠ .double) (lastExact : last.dataType ≠ .double)
    (less : Holds .lt left right) (lessToo : Holds .lt right last) : Holds .lt left last := by
  obtain ⟨leftSeen, rightSeen, leftSees, rightSees, ordered⟩ :=
    (holds_lt_iff leftExact rightExact).mp less
  obtain ⟨_, lastSeen, sameSees, lastSees, orderedToo⟩ :=
    (holds_lt_iff rightExact lastExact).mp lessToo
  cases rightSees.symm.trans sameSees
  exact (holds_lt_iff leftExact lastExact).mpr
    ⟨leftSeen, lastSeen, leftSees, lastSees, Comparand.ordering?_lt_trans ordered orderedToo⟩

/-- Host comparison is a coherent order of the values that are no doubles. Two of them, none of
which is null, either do not compare, whatever the relation and in either order, or exactly one of
the three relations holds that leave no room for the others. Less and equal are transitive, and
equal values are interchangeable, whatever their sizes are. A null is equal to nulls only, and has
no place in the order. -/
theorem compared_coherent (first second third : Value) (firstExact : first.dataType ≠ .double)
    (secondExact : second.dataType ≠ .double) (thirdExact : third.dataType ≠ .double) :
    (first.isNull = false → second.isNull = false →
      ¬first.Comparable second ∧
          (∀ op, compared op first second =
            .error (.wrongType "comparison" first.dataType second.dataType)) ∧
          (∀ op, compared op second first =
            .error (.wrongType "comparison" second.dataType first.dataType)) ∨
        first.Comparable second ∧ first.Ordered second) ∧
    (Holds .lt first second → Holds .lt second third → Holds .lt first third) ∧
    (Holds .eq first second → Holds .eq second third → Holds .eq first third) ∧
    (Holds .eq first second →
      (Holds .lt first third ↔ Holds .lt second third) ∧
      (Holds .lt third first ↔ Holds .lt third second)) ∧
    (first.isNull = true ∨ second.isNull = true →
      compared .eq first second = .ok (first.isNull && second.isNull) ∧
      compared .ne first second = .ok (first.isNull != second.isNull) ∧
      ∀ op, op ≠ .eq → op ≠ .ne → compared op first second = .ok false) := by
  refine ⟨ordered_or_fails firstExact secondExact,
    Holds.lt_trans firstExact secondExact thirdExact, ?_, fun same => ?_, fun null => ?_⟩
  · rw [holds_eq_iff firstExact secondExact, holds_eq_iff secondExact thirdExact,
      holds_eq_iff firstExact thirdExact]
    exact Eq.trans
  · have sees := (holds_eq_iff firstExact secondExact).mp same
    rw [holds_lt_iff firstExact thirdExact, holds_lt_iff secondExact thirdExact,
      holds_lt_iff thirdExact firstExact, holds_lt_iff thirdExact secondExact, sees]
    exact ⟨Iff.rfl, Iff.rfl⟩
  · refine ⟨?_, ?_, fun op notEq notNe => ?_⟩
    · rw [compared_null .eq null]
      revert null
      cases first.isNull <;> cases second.isNull <;> simp
    · rw [compared_null .ne null]
      revert null
      cases first.isNull <;> cases second.isNull <;> simp
    · rw [compared_null op null]
      simp [notEq, notNe]

theorem compared_coherent_sampleSizes :
    Ordered (.int16 7) (.int64 7) ∧
    Holds .lt (.int16 7) (.int64 9) ∧
    (Holds .lt (.int16 7) (.int32 8) ↔ Holds .lt (.int64 7) (.int32 8)) ∧
    (∀ op, compared op (.text "7") (.int32 7) =
      .error (.typeMismatch "comparison" "String" "Int32")) ∧
    compared .eq .null .null = .ok true ∧ compared .ne .null (.int32 0) = .ok true ∧
    compared .le .null .null = .ok false := by
  obtain ⟨compares, _, _, interchanges, _⟩ :=
    compared_coherent (.int16 7) (.int64 7) (.int32 8) nofun nofun nofun
  obtain ⟨_, less, _⟩ := compared_coherent (.int16 7) (.int32 8) (.int64 9) nofun nofun nofun
  obtain ⟨apart, _⟩ := compared_coherent (.text "7") (.int32 7) .null nofun nofun nofun
  obtain ⟨_, _, _, _, nulls⟩ := compared_coherent .null .null .null nofun nofun nofun
  obtain ⟨_, _, _, _, oneNull⟩ := compared_coherent .null (.int32 0) .null nofun nofun nofun
  refine ⟨?_, less rfl rfl, (interchanges rfl).1, ?_, (nulls (.inl rfl)).1,
    (oneNull (.inl rfl)).2.1, (nulls (.inl rfl)).2.2 .le nofun nofun⟩
  · exact (compares rfl rfl).elim (fun apart => absurd (by decide) apart.1) And.right
  · exact (apart rfl rfl).elim (fun apart => apart.2.1) fun given => absurd given.1 (by decide)

end Value

end QueryText
