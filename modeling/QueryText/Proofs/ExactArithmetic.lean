import Mathlib.Algebra.Group.Int.Defs
import QueryText.Proofs.Result
import QueryText.Value.Arithmetic

/-!
# Exact arithmetic

Arithmetic on integers of different sizes gives the exact result in the larger of the two types, or
it fails: where a number is divided by zero, and where the larger type does not hold the result.
Nothing wraps around, although the numbers are computed in 64 bits first and narrowed afterwards.
-/

set_option autoImplicit false

namespace QueryText

/-!
## Integer types
-/

namespace DataType

def bits : DataType → Nat
  | .int16 => 16
  | .int32 => 32
  | .int64 => 64
  | _ => 0

/-- The integers that the two's complement of a type has room for. -/
def Spans (dataType : DataType) (number : Int) : Prop :=
  -2 ^ (dataType.bits - 1) ≤ number ∧ number < 2 ^ (dataType.bits - 1)

instance (dataType : DataType) (number : Int) : Decidable (dataType.Spans number) :=
  inferInstanceAs (Decidable (_ ∧ _))

/-- The type of more bits. -/
def larger (left right : DataType) : DataType :=
  if left.bits < right.bits then right else left

variable {dataType left right : DataType} {number : Int}

theorem holds_iff (integer : dataType.isInteger = true) :
    dataType.holds number = true ↔ dataType.Spans number := by
  cases dataType with
  | int16 | int32 | int64 =>
      simp only [holds, Spans, bits, Bool.and_eq_true, decide_eq_true_eq]
      omega
  | _ => cases integer

theorem Spans.holds_int64 (integer : dataType.isInteger = true) (spans : dataType.Spans number) :
    int64.holds number = true := by
  rw [holds_iff rfl]
  cases dataType with
  | int16 | int32 | int64 =>
      simp only [Spans, bits] at spans ⊢
      omega
  | _ => cases integer

theorem widerOf_eq (leftInteger : left.isInteger = true) (rightInteger : right.isInteger = true) :
    left.widerOf right = left.larger right := by
  cases left with
  | int16 | int32 | int64 =>
      cases right with
      | int16 | int32 | int64 => rfl
      | _ => cases rightInteger
  | _ => cases leftInteger

theorem isInteger_larger (leftInteger : left.isInteger = true)
    (rightInteger : right.isInteger = true) : (left.larger right).isInteger = true := by
  unfold larger
  split
  · exact rightInteger
  · exact leftInteger

end DataType

namespace Value

variable {dataType : DataType} {value : Value} {number : Int}

theorem isInteger_dataType (denotes : value.integer? = some number) :
    value.dataType.isInteger = true := by
  cases value with
  | int16 | int32 | int64 => rfl
  | _ => cases denotes

theorem isNull_eq_false (denotes : value.integer? = some number) : value.isNull = false := by
  cases value with
  | int16 | int32 | int64 => rfl
  | _ => cases denotes

/-- The value that is made of an integer is the one of that type that denotes it. -/
theorem ofInteger?_eq_some_iff :
    ofInteger? dataType number = some value ↔
      value.dataType = dataType ∧ value.integer? = some number := by
  constructor
  · intro made
    unfold ofInteger? at made
    split at made
    · next holds =>
      simp only [DataType.holds] at holds
      cases dataType with
      | int16 =>
          simp only [Bool.and_eq_true, decide_eq_true_eq] at holds
          cases made
          exact ⟨rfl, congrArg some (Int16.toInt_ofInt_of_le (by omega) (by omega))⟩
      | int32 =>
          simp only [Bool.and_eq_true, decide_eq_true_eq] at holds
          cases made
          exact ⟨rfl, congrArg some (Int32.toInt_ofInt_of_le (by omega) (by omega))⟩
      | int64 =>
          simp only [Bool.and_eq_true, decide_eq_true_eq] at holds
          cases made
          exact ⟨rfl, congrArg some (Int64.toInt_ofInt_of_le (by omega) (by omega))⟩
      | _ => cases made
    · cases made
  · rintro ⟨rfl, denotes⟩
    cases value with
    | int16 value | int32 value | int64 value =>
        cases denotes
        have low := value.le_toInt
        have high := value.toInt_lt
        simp only [ofInteger?, Value.dataType, DataType.holds, Bool.and_eq_true, decide_eq_true_eq]
        rw [if_pos (by omega)]
        simp
    | _ => cases denotes

/-- A type has a value for every integer that it spans. -/
theorem exists_ofInteger? (integer : dataType.isInteger = true) (spans : dataType.Spans number) :
    ∃ value, ofInteger? dataType number = some value := by
  unfold ofInteger?
  rw [if_pos ((DataType.holds_iff integer).mpr spans)]
  cases dataType with
  | int16 | int32 | int64 => exact ⟨_, rfl⟩
  | _ => cases integer

theorem ofInteger?_eq_none_iff (integer : dataType.isInteger = true) :
    ofInteger? dataType number = none ↔ ¬dataType.Spans number := by
  constructor
  · intro none spans
    obtain ⟨value, made⟩ := exists_ofInteger? integer spans
    cases none.symm.trans made
  · intro outside
    unfold ofInteger?
    rw [if_neg fun holds => outside ((DataType.holds_iff integer).mp holds)]

end Value

/-!
## Exact results
-/

/-- The exact result of an operation on integers. A quotient is cut off toward zero: what remains of
the dividend has its sign, if it is not zero, and is smaller than the divisor. So nothing is a
quotient by zero. -/
inductive ArithmeticOp.Yields : ArithmeticOp → Int → Int → Int → Prop where
  | add (left right : Int) : Yields .add left right (left + right)
  | subtract (left right : Int) : Yields .subtract left right (left - right)
  | multiply (left right : Int) : Yields .multiply left right (left * right)
  | divide {left right quotient : Int} (rest : Int) :
      right * quotient + rest = left → rest.natAbs < right.natAbs →
      (0 ≤ left → 0 ≤ rest) → (left ≤ 0 → rest ≤ 0) → Yields .divide left right quotient

namespace ArithmeticOp

variable {op : ArithmeticOp} {left right number : Int}

private theorem tdiv_eq {quotient rest : Int} (sum : right * quotient + rest = left)
    (smaller : rest.natAbs < right.natAbs) (positive : 0 ≤ left → 0 ≤ rest)
    (negative : left ≤ 0 → rest ≤ 0) : left.tdiv right = quotient := by
  have notZero : right ≠ 0 := by
    rintro rfl
    exact Nat.not_lt_zero _ smaller
  rcases Int.le_total 0 left with upper | lower
  · have above := positive upper
    exact ((Int.tdiv_tmod_unique upper notZero).mpr
      ⟨Int.add_comm rest _ ▸ sum, above, by omega⟩).1
  · have below := negative lower
    exact ((Int.tdiv_tmod_unique' lower notZero).mpr
      ⟨Int.add_comm rest _ ▸ sum, by omega, below⟩).1

private theorem yields_tdiv (notZero : right ≠ 0) :
    Yields .divide left right (left.tdiv right) := by
  refine .divide (left.tmod right) (Int.mul_tdiv_add_tmod left right) ?_ ?_ ?_
  · rw [Int.natAbs_tmod]
    exact Nat.mod_lt _ (Int.natAbs_pos.mpr notZero)
  · exact fun upper => Int.tmod_nonneg right upper
  · intro lower
    have mirrored := Int.tmod_nonneg right (Int.neg_nonneg_of_nonpos lower)
    rw [Int.neg_tmod] at mirrored
    omega

/-- What is computed is the exact result, unless there is none. -/
theorem yields_iff :
    op.Yields left right number ↔ ¬(op = .divide ∧ right = 0) ∧ op.exact left right = number := by
  constructor
  · intro yielded
    cases yielded with
    | add | subtract | multiply => exact ⟨nofun, rfl⟩
    | divide rest sum smaller positive negative =>
        refine ⟨?_, tdiv_eq sum smaller positive negative⟩
        rintro ⟨_, rfl⟩
        exact Nat.not_lt_zero _ smaller
  · rintro ⟨defined, rfl⟩
    cases op with
    | add => exact .add left right
    | subtract => exact .subtract left right
    | multiply => exact .multiply left right
    | divide => exact yields_tdiv fun zero => defined ⟨rfl, zero⟩

end ArithmeticOp

/-!
## Integers as operands
-/

namespace Value

variable {op : ArithmeticOp} {left right : Value} {leftNumber rightNumber : Int}

theorem narrow_spans (op : ArithmeticOp) {dataType : DataType} {number : Int}
    (integer : dataType.isInteger = true) (spans : dataType.Spans number) :
    ∃ value, narrow op dataType number = .ok value ∧
      value.dataType = dataType ∧ value.integer? = some number := by
  obtain ⟨value, made⟩ := exists_ofInteger? integer spans
  refine ⟨value, ?_, ofInteger?_eq_some_iff.mp made⟩
  rw [narrow, made]

theorem narrow_outside {dataType : DataType} {number : Int} (integer : dataType.isInteger = true)
    (outside : ¬dataType.Spans number) :
    narrow op dataType number = .error (.integerOverflow op.symbol) := by
  rw [narrow, (ofInteger?_eq_none_iff integer).mpr outside]

/-- The 64 bits between do not show: what they cannot hold does not fit the larger type either. -/
theorem arithmetic_integers (leftInteger : left.integer? = some leftNumber)
    (rightInteger : right.integer? = some rightNumber) :
    arithmetic op left right =
      if op = .divide ∧ rightNumber = 0 then .error .divisionByZero
      else narrow op (left.dataType.larger right.dataType) (op.exact leftNumber rightNumber) := by
  have leftType := isInteger_dataType leftInteger
  have rightType := isInteger_dataType rightInteger
  have larger := DataType.isInteger_larger leftType rightType
  rw [arithmetic, isNull_eq_false leftInteger, isNull_eq_false rightInteger, leftInteger,
    rightInteger, DataType.widerOf_eq leftType rightType]
  simp only [Bool.false_eq_true, or_self, ↓reduceIte, integerResult]
  split
  · rfl
  · split
    · rfl
    · next unheld =>
      exact (narrow_outside larger fun spans => unheld (spans.holds_int64 larger)).symm

/-- Arithmetic on integers succeeds with the exact result, in the larger of the two types, where
that type has room for it. It fails with the division by zero exactly where zero is the divisor, and
with the overflow in all other cases. -/
theorem arithmetic_exact (op : ArithmeticOp) (left right : Value)
    (leftInteger : left.integer? = some leftNumber) (rightInteger : right.integer? = some rightNumber) :
    let larger := left.dataType.larger right.dataType
    (∀ number, op.Yields leftNumber rightNumber number → larger.Spans number →
      ∃ value, arithmetic op left right = .ok value ∧
        value.dataType = larger ∧ value.integer? = some number) ∧
    (∀ value, arithmetic op left right = .ok value →
      value.dataType = larger ∧
        ∃ number, op.Yields leftNumber rightNumber number ∧ value.integer? = some number) ∧
    (arithmetic op left right = .error .divisionByZero ↔ op = .divide ∧ rightNumber = 0) ∧
    (arithmetic op left right = .error (.integerOverflow op.symbol) ↔
      ¬(op = .divide ∧ rightNumber = 0) ∧
        ∀ number, op.Yields leftNumber rightNumber number → ¬larger.Spans number) := by
  intro larger
  have integer : larger.isInteger = true :=
    DataType.isInteger_larger (isInteger_dataType leftInteger) (isInteger_dataType rightInteger)
  have distinct : RenderError.divisionByZero ≠ .integerOverflow op.symbol := by
    cases op <;> decide
  rw [arithmetic_integers leftInteger rightInteger]
  by_cases byZero : op = .divide ∧ rightNumber = 0
  · have undefined : ∀ number, ¬op.Yields leftNumber rightNumber number := fun number yielded =>
      (ArithmeticOp.yields_iff.mp yielded).1 byZero
    rw [if_pos byZero]
    refine ⟨fun number yielded => absurd yielded (undefined number), nofun,
      iff_of_true rfl byZero, iff_of_false ?_ fun given => given.1 byZero⟩
    exact fun same => distinct (Except.error.inj same)
  · have yielded : op.Yields leftNumber rightNumber (op.exact leftNumber rightNumber) :=
      ArithmeticOp.yields_iff.mpr ⟨byZero, rfl⟩
    have unique : ∀ number, op.Yields leftNumber rightNumber number →
        op.exact leftNumber rightNumber = number := fun number yielded =>
      (ArithmeticOp.yields_iff.mp yielded).2
    rw [if_neg byZero]
    by_cases spans : larger.Spans (op.exact leftNumber rightNumber)
    · obtain ⟨value, made, ofType, denotes⟩ := narrow_spans op integer spans
      rw [made]
      refine ⟨?_, ?_, iff_of_false nofun byZero, iff_of_false nofun fun given => ?_⟩
      · intro number exact _
        exact ⟨value, rfl, ofType, unique number exact ▸ denotes⟩
      · rintro _ ⟨⟩
        exact ⟨ofType, _, yielded, denotes⟩
      · exact given.2 _ yielded spans
    · rw [narrow_outside integer spans]
      refine ⟨?_, nofun, iff_of_false ?_ byZero, iff_of_true rfl ⟨byZero, ?_⟩⟩
      · exact fun number exact fits => absurd (unique number exact ▸ fits) spans
      · exact fun same => distinct (Except.error.inj same).symm
      · exact fun number exact => unique number exact ▸ spans

/-- The least integer of 16 bits has no negative there, but it has one among those of 32 bits. A
product that leaves 64 bits fits no type, and a quotient is cut off toward zero. -/
theorem arithmetic_exact_sampleLeast :
    arithmetic .divide (.int16 (-32768)) (.int16 (-1)) =
      .error (.arithmetic "integer overflow in '/'") ∧
    (∃ value, arithmetic .divide (.int16 (-32768)) (.int32 (-1)) = .ok value ∧
      value.dataType = .int32 ∧ value.integer? = some 32768) ∧
    arithmetic .multiply (.int64 9223372036854775807) (.int16 2) =
      .error (.arithmetic "integer overflow in '*'") ∧
    (∃ value, arithmetic .divide (.int16 (-7)) (.int64 2) = .ok value ∧
      value.dataType = .int64 ∧ value.integer? = some (-3)) ∧
    arithmetic .divide (.int64 5) (.int16 0) = .error (.arithmetic "division by zero") := by
  obtain ⟨_, _, _, least⟩ :=
    arithmetic_exact .divide (.int16 (-32768)) (.int16 (-1)) rfl rfl
  obtain ⟨widened, _⟩ :=
    arithmetic_exact .divide (.int16 (-32768)) (.int32 (-1)) rfl rfl
  obtain ⟨_, _, _, product⟩ :=
    arithmetic_exact .multiply (.int64 9223372036854775807) (.int16 2) rfl rfl
  obtain ⟨quotient, _⟩ :=
    arithmetic_exact .divide (.int16 (-7)) (.int64 2) rfl rfl
  obtain ⟨_, _, byZero, _⟩ :=
    arithmetic_exact .divide (.int64 5) (.int16 0) rfl rfl
  refine ⟨least.mpr ⟨by decide, ?_⟩, widened 32768 ?_ (by decide), product.mpr ⟨by decide, ?_⟩,
    quotient (-3) ?_ (by decide), byZero.mpr ⟨rfl, rfl⟩⟩
  · intro number yielded
    obtain ⟨_, rfl⟩ := ArithmeticOp.yields_iff.mp yielded
    decide
  · exact .divide 0 rfl (by decide) (by decide) (by decide)
  · intro number yielded
    cases yielded
    decide
  · exact .divide (-1) rfl (by decide) (by decide) (by decide)

end Value

end QueryText
