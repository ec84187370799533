import Mathlib.Algebra.Group.Nat.Defs
import QueryText.Dialect.Literal
import QueryText.Proofs.HostOrder

/-!
# Order of dates in the text

A date or a moment is written with its parts from the largest to the smallest, each with a fixed
number of digits. Texts of one width compare part by part, and parts compare as their numbers do. So
the literals of dates sort as the dates, and those of moments never contradict the order of the
moments, where only fractions of the second that is shown make no difference.
-/

set_option autoImplicit false

namespace QueryText

/-!
## Texts of one width
-/

namespace Text

private theorem compare_characters (left right : List Char) :
    compare left right = compareOfLessAndEq left right := by
  induction left generalizing right with
  | nil => cases right <;> rfl
  | cons first left ih =>
      cases right with
      | nil => rfl
      | cons second right =>
          rw [List.compare_cons_cons, ih]
          change (compareOfLessAndEq first second).then _ = _
          unfold compareOfLessAndEq
          simp only [List.cons_lt_cons_iff, List.cons.injEq]
          by_cases less : first < second
          · simp [less]
          · by_cases same : first = second
            · simp [same]
            · simp [less, same]

theorem compare_toList (left right : String) :
    compare left right = compare left.toList right.toList := by
  have less : left < right ↔ left.toList < right.toList := Iff.rfl
  rw [compare_characters]
  change compareOfLessAndEq left right = _
  simp only [compareOfLessAndEq, less, String.toList_inj]

theorem isLE_compare_iff {left right : String} :
    (compare left right).isLE = true ↔ left ≤ right :=
  isLE_compareOfLessAndEq String.le_antisymm String.not_le String.le_total

/-- Two texts have the same width and compare in a given way. -/
structure Ranked (left right : String) (ordering : Ordering) : Prop where
  width : left.length = right.length
  order : compare left right = ordering

namespace Ranked

theorem fixed (text : String) : Ranked text text .eq :=
  ⟨rfl, Std.ReflCmp.compare_self⟩

private theorem compare_append {left right : List Char} (width : left.length = right.length)
    (more others : List Char) :
    compare (left ++ more) (right ++ others) = (compare left right).then (compare more others) := by
  induction left generalizing right with
  | nil =>
      rw [List.length_eq_zero_iff.mp width.symm]
      rfl
  | cons first left ih =>
      cases right with
      | nil => cases width
      | cons second right =>
          rw [List.cons_append, List.cons_append, List.compare_cons_cons, List.compare_cons_cons,
            ih (Nat.succ.inj width), Ordering.then_assoc]

/-- Behind texts of one width others compare only if those are the same. -/
theorem append {left right more others : String} {ordering next : Ordering}
    (front : Ranked left right ordering) (back : Ranked more others next) :
    Ranked (left ++ more) (right ++ others) (ordering.then next) := by
  have width := front.width
  rw [← String.length_toList, ← String.length_toList] at width
  refine ⟨by rw [String.length_append, String.length_append, front.width, back.width], ?_⟩
  rw [compare_toList, String.toList_append, String.toList_append, compare_append width,
    ← compare_toList, ← compare_toList, front.order, back.order]

end Ranked

/-!
## Decimals of one width
-/

private theorem compare_decimal (left right : Nat) :
    compare left right =
      (compare (left / 10) (right / 10)).then (compare (left % 10) (right % 10)) := by
  rcases Nat.lt_trichotomy (left / 10) (right / 10) with less | same | more
  · rw [Nat.compare_eq_lt.mpr less, Nat.compare_eq_lt.mpr (by omega)]
    rfl
  · rw [Nat.compare_eq_eq.mpr same, Ordering.eq_then]
    rcases Nat.lt_trichotomy (left % 10) (right % 10) with less | same | more
    · rw [Nat.compare_eq_lt.mpr less, Nat.compare_eq_lt.mpr (by omega)]
    · rw [Nat.compare_eq_eq.mpr same, Nat.compare_eq_eq.mpr (by omega)]
    · rw [Nat.compare_eq_gt.mpr more, Nat.compare_eq_gt.mpr (by omega)]
  · rw [Nat.compare_eq_gt.mpr more, Nat.compare_eq_gt.mpr (by omega)]
    rfl

private theorem ranked_digit {left right : Nat} (leftDigit : left < 10) (rightDigit : right < 10) :
    Ranked (String.ofList [left.digitChar]) (String.ofList [right.digitChar])
      (compare left right) := by
  have order : ∀ left < 10, ∀ right < 10,
      compare [left.digitChar] [right.digitChar] = compare left right := by
    decide
  refine ⟨by rw [String.length_ofList, String.length_ofList]; rfl, ?_⟩
  rw [compare_toList, String.toList_ofList, String.toList_ofList]
  exact order left leftDigit right rightDigit

private theorem paddedDecimal_digit {number : Nat} (digit : number < 10) :
    paddedDecimal 1 number = String.ofList [number.digitChar] := by
  rw [paddedDecimal, Nat.toDigits_of_lt_base digit]
  rfl

private theorem paddedDecimal_succ (width number : Nat) :
    paddedDecimal (width + 2) number =
      paddedDecimal (width + 1) (number / 10) ++ String.ofList [(number % 10).digitChar] := by
  unfold paddedDecimal
  rw [← String.ofList_append]
  by_cases digit : number < 10
  · rw [Nat.toDigits_of_lt_base digit, Nat.div_eq_of_lt digit, Nat.mod_eq_of_lt digit]
    simp [List.leftpad, List.replicate_succ']
  · rw [Nat.toDigits_of_base_le (by decide) (by omega)]
    simp [List.leftpad]

theorem ranked_paddedDecimal {width left right : Nat} (leftFits : left < 10 ^ (width + 1))
    (rightFits : right < 10 ^ (width + 1)) :
    Ranked (paddedDecimal (width + 1) left) (paddedDecimal (width + 1) right)
      (compare left right) := by
  induction width generalizing left right with
  | zero =>
      rw [paddedDecimal_digit leftFits, paddedDecimal_digit rightFits]
      exact ranked_digit leftFits rightFits
  | succ width ih =>
      rw [paddedDecimal_succ, paddedDecimal_succ, compare_decimal]
      refine (ih ?_ ?_).append (ranked_digit (Nat.mod_lt _ (by decide)) (Nat.mod_lt _ (by decide)))
      · exact Nat.div_lt_of_lt_mul (by rwa [Nat.pow_succ, Nat.mul_comm] at leftFits)
      · exact Nat.div_lt_of_lt_mul (by rwa [Nat.pow_succ, Nat.mul_comm] at rightFits)

end Text

open Text (Ranked ranked_paddedDecimal)

/-!
## Dates and moments
-/

namespace Date

/-- The year of a date is written with four digits and no sign. -/
def Unsigned (date : Date) : Prop :=
  0 ≤ date.year ∧ date.year ≤ 9999

variable {first second : Date}

theorem daysInMonth_le (year : Int) (month : Nat) : daysInMonth year month ≤ 31 := by
  unfold daysInMonth
  split
  · split <;> decide
  · split <;> decide

theorem yearText_ranked (firstPlain : first.Unsigned) (secondPlain : second.Unsigned) :
    Ranked (yearText first.year) (yearText second.year) (compare first.year second.year) := by
  have same : compare first.year second.year =
      compare first.year.natAbs second.year.natAbs := by
    obtain ⟨firstNatural, _⟩ := firstPlain
    obtain ⟨secondNatural, _⟩ := secondPlain
    change compareOfLessAndEq first.year second.year = compareOfLessAndEq _ _
    have less : first.year < second.year ↔ first.year.natAbs < second.year.natAbs := by omega
    have equal : first.year = second.year ↔ first.year.natAbs = second.year.natAbs := by omega
    simp only [compareOfLessAndEq, less, equal]
  have plain (date : Date) (unsigned : date.Unsigned) :
      yearText date.year = Text.paddedDecimal 4 date.year.natAbs := if_pos unsigned
  rw [plain first firstPlain, plain second secondPlain, same]
  obtain ⟨_, firstBound⟩ := firstPlain
  obtain ⟨_, secondBound⟩ := secondPlain
  exact ranked_paddedDecimal (by omega) (by omega)

theorem month_ranked (first second : Date) :
    Ranked (Text.paddedDecimal 2 first.month) (Text.paddedDecimal 2 second.month)
      (compare first.month second.month) := by
  have firstBound := first.month_valid
  have secondBound := second.month_valid
  exact ranked_paddedDecimal (by omega) (by omega)

theorem day_ranked (first second : Date) :
    Ranked (Text.paddedDecimal 2 first.day) (Text.paddedDecimal 2 second.day)
      (compare first.day second.day) := by
  have firstBound := Nat.le_trans first.day_valid.2 (daysInMonth_le ..)
  have secondBound := Nat.le_trans second.day_valid.2 (daysInMonth_le ..)
  exact ranked_paddedDecimal (by omega) (by omega)

theorem text_ranked (firstPlain : first.Unsigned) (secondPlain : second.Unsigned) :
    Ranked first.text second.text (compare first second) := by
  have parts := ((((yearText_ranked firstPlain secondPlain).append (.fixed "-")).append
    (month_ranked first second)).append (.fixed "-")).append (day_ranked first second)
  rw [Ordering.then_eq, Ordering.then_eq, Ordering.then_assoc] at parts
  exact parts

end Date

namespace DateTime

variable {left right : DateTime}

/-- The order of what two moments show: the day, the hour, the minute and the second of a clock. -/
def shownOrder (left right : DateTime) : Ordering :=
  (compare left.date right.date).then <| (compare left.hour right.hour).then <|
    (compare left.minute right.minute).then (compare left.shownSecond right.shownSecond)

theorem shownSecond_le (moment : DateTime) : moment.shownSecond ≤ 60 := by
  have bound := moment.second_valid
  unfold shownSecond
  split <;> omega

theorem timeText_ranked (left right : DateTime) :
    Ranked left.timeText right.timeText
      ((compare left.hour right.hour).then <| (compare left.minute right.minute).then
        (compare left.shownSecond right.shownSecond)) := by
  have hours : Ranked (Text.paddedDecimal 2 left.hour) (Text.paddedDecimal 2 right.hour) _ :=
    ranked_paddedDecimal (Nat.lt_trans left.hour_valid (by decide))
      (Nat.lt_trans right.hour_valid (by decide))
  have minutes :
      Ranked (Text.paddedDecimal 2 left.minute) (Text.paddedDecimal 2 right.minute) _ :=
    ranked_paddedDecimal (Nat.lt_trans left.minute_valid (by decide))
      (Nat.lt_trans right.minute_valid (by decide))
  have seconds :
      Ranked (Text.paddedDecimal 2 left.shownSecond) (Text.paddedDecimal 2 right.shownSecond)
        _ :=
    ranked_paddedDecimal (Nat.lt_of_le_of_lt left.shownSecond_le (by decide))
      (Nat.lt_of_le_of_lt right.shownSecond_le (by decide))
  have parts := (((hours.append (.fixed ":")).append minutes).append (.fixed ":")).append seconds
  rw [Ordering.then_eq, Ordering.then_eq, Ordering.then_assoc] at parts
  exact parts

theorem text_ranked (leftPlain : left.date.Unsigned) (rightPlain : right.date.Unsigned) :
    Ranked left.text right.text (left.shownOrder right) := by
  have parts := ((Date.text_ranked leftPlain rightPlain).append (.fixed " ")).append
    (timeText_ranked left right)
  rw [Ordering.then_eq] at parts
  exact parts

theorem shownOrder_eq_iff :
    left.shownOrder right = .eq ↔
      left.date = right.date ∧ left.hour = right.hour ∧ left.minute = right.minute ∧
        left.shownSecond = right.shownSecond := by
  simp only [shownOrder, Ordering.then_eq_eq, Std.LawfulEqOrd.compare_eq_iff_eq]

private theorem isLE_then {front back other : Ordering} (later : back.isLE → other.isLE)
    (ordered : (front.then back).isLE = true) : (front.then other).isLE = true := by
  cases front with
  | lt => rfl
  | eq => exact later ordered
  | gt => cases ordered

private theorem shownSecond_isLE
    (ordered : ((compare left.second right.second).then
      (compare left.nanos right.nanos)).isLE = true) :
    (compare left.shownSecond right.shownSecond).isLE = true := by
  rw [Nat.isLE_compare]
  unfold shownSecond
  rcases Nat.lt_trichotomy left.second right.second with less | same | more
  · split <;> split <;> omega
  · -- Within one second the nanoseconds decide, and they tell whether it is a leap second.
    rw [Nat.compare_eq_eq.mpr same, Ordering.eq_then, Nat.isLE_compare] at ordered
    split <;> split <;> omega
  · rw [Nat.compare_eq_gt.mpr more] at ordered
    cases ordered

/-- What a clock shows never falls as time goes on, not even in a leap second. -/
theorem shownOrder_isLE (ordered : (compare left right).isLE = true) :
    (left.shownOrder right).isLE = true :=
  isLE_then (isLE_then (isLE_then shownSecond_isLE)) ordered

end DateTime

/-!
## Literals
-/

namespace Dialect

open Value (compared)

private theorem ranked_quoted {left right : String} {ordering : Ordering}
    (ranked : Ranked left right ordering) :
    compare ("'" ++ left ++ "'") ("'" ++ right ++ "'") = ordering := by
  have parts := ((Ranked.fixed "'").append ranked).append (.fixed "'")
  rw [Ordering.then_eq, Ordering.eq_then] at parts
  exact parts.order

private theorem quoted_le {left right : DateTime} (leftPlain : left.date.Unsigned)
    (rightPlain : right.date.Unsigned) (ordered : (compare left right).isLE = true) :
    "'" ++ left.text ++ "'" ≤ "'" ++ right.text ++ "'" := by
  rw [← Text.isLE_compare_iff, ranked_quoted (DateTime.text_ranked leftPlain rightPlain)]
  exact DateTime.shownOrder_isLE ordered

/-- The literals that Sqlite has for two dates compare as texts in the way in which the dates
compare. Of two moments, with whatever fractions and leap seconds, the one that is not later has a
literal that is not greater, a smaller literal belongs to an earlier moment, and the literals are
equal exactly if the moments show the same day, hour, minute and second. -/
theorem literals_sorted :
    (∀ first second : Date, first.Unsigned → second.Unsigned →
      ∃ text other, sqlite.literal (.date first) = .ok text ∧
        sqlite.literal (.date second) = .ok other ∧
        ∀ op, compared op (.date first) (.date second) = .ok (op.accepts (compare text other))) ∧
    (∀ left right : DateTime, left.date.Unsigned → right.date.Unsigned →
      ∃ text other, sqlite.literal (.dateTime left) = .ok text ∧
        sqlite.literal (.dateTime right) = .ok other ∧
        (compared .le (.dateTime left) (.dateTime right) = .ok true → text ≤ other) ∧
        (text < other → compared .lt (.dateTime left) (.dateTime right) = .ok true) ∧
        (text = other ↔ left.date = right.date ∧ left.hour = right.hour ∧
          left.minute = right.minute ∧ left.shownSecond = right.shownSecond)) := by
  refine ⟨fun first second firstPlain secondPlain => ?_, fun left right leftPlain rightPlain => ?_⟩
  · refine ⟨"'" ++ first.text ++ "'", "'" ++ second.text ++ "'", rfl, rfl, fun op => ?_⟩
    rw [ranked_quoted (Date.text_ranked firstPlain secondPlain)]
    rfl
  · have decided (op : Relation) :
        compared op (.dateTime left) (.dateTime right) = .ok (op.accepts (compare left right)) := rfl
    refine ⟨"'" ++ left.text ++ "'", "'" ++ right.text ++ "'", rfl, rfl, fun notLater => ?_,
      fun less => ?_, ?_⟩
    · rw [decided, Except.ok.injEq] at notLater
      refine quoted_le leftPlain rightPlain ?_
      cases order : compare left right with
      | lt | eq => rfl
      | gt => rw [order] at notLater; cases notLater
    · -- A moment that is not earlier has a literal that is not smaller.
      have later : ¬(compare right left).isLE = true := fun ordered =>
        String.not_le.mpr less (quoted_le rightPlain leftPlain ordered)
      rw [decided, Std.OrientedCmp.lt_of_not_isLE later]
      rfl
    · rw [← Std.LawfulEqOrd.compare_eq_iff_eq (α := String),
        ranked_quoted (DateTime.text_ranked leftPlain rightPlain)]
      exact DateTime.shownOrder_eq_iff

/-- The middle of the leap second that ended the June of 2015. -/
def sampleLeap : DateTime :=
  ⟨⟨2015, 6, 30, by decide, by decide⟩, 23, 59, 59, 1500000000, by decide, by decide, by decide,
    by decide⟩

def sampleJuly : DateTime :=
  .midnight ⟨2015, 7, 1, by decide, by decide⟩

theorem literals_sorted_sampleLeap :
    sampleLeap.date.Unsigned ∧ sampleJuly.date.Unsigned ∧
      sqlite.literal (.dateTime sampleLeap) = .ok "'2015-06-30 23:59:60'" ∧
      sqlite.literal (.dateTime sampleJuly) = .ok "'2015-07-01 00:00:00'" ∧
      compared .le (.dateTime sampleLeap) (.dateTime sampleJuly) = .ok true ∧
      "'2015-06-30 23:59:60'" ≤ "'2015-07-01 00:00:00'" ∧
      compared .lt (.date sampleLeap.date) (.date sampleJuly.date) =
        .ok (Relation.lt.accepts (compare "'2015-06-30'" "'2015-07-01'")) := by
  have leapPlain : sampleLeap.date.Unsigned := ⟨by decide, by decide⟩
  have julyPlain : sampleJuly.date.Unsigned := ⟨by decide, by decide⟩
  have leap : sqlite.literal (.dateTime sampleLeap) = .ok "'2015-06-30 23:59:60'" := rfl
  have july : sqlite.literal (.dateTime sampleJuly) = .ok "'2015-07-01 00:00:00'" := rfl
  have leapDay : sqlite.literal (.date sampleLeap.date) = .ok "'2015-06-30'" := rfl
  have julyDay : sqlite.literal (.date sampleJuly.date) = .ok "'2015-07-01'" := rfl
  have notLater : compared .le (.dateTime sampleLeap) (.dateTime sampleJuly) = .ok true := rfl
  obtain ⟨dates, moments⟩ := literals_sorted
  obtain ⟨text, other, textOk, otherOk, sorted, _, _⟩ := moments _ _ leapPlain julyPlain
  obtain ⟨day, otherDay, dayOk, otherDayOk, compares⟩ := dates _ _ leapPlain julyPlain
  cases leap.symm.trans textOk
  cases july.symm.trans otherOk
  cases leapDay.symm.trans dayOk
  cases julyDay.symm.trans otherDayOk
  exact ⟨leapPlain, julyPlain, leap, july, notLater, sorted notLater, compares .lt⟩

end Dialect

end QueryText
