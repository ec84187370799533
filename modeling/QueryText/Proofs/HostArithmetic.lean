import QueryText.Proofs.Retyping

/-!
# Order of host arithmetic

Sums and products on the host commute, with one exception: the sum with a text joins two texts, and
these come in the order of the operands. But whether a value can be computed with, compared, coerced
or written never depends on which text it is, so values that differ only as texts are accepted in
the same places.
-/

set_option autoImplicit false

namespace QueryText

/-- Whether the sides of an operation can be swapped: those of a sum and of a product. -/
def ArithmeticOp.Commutes (op : ArithmeticOp) : Prop :=
  op = .add ∨ op = .multiply

/-!
## Doubles
-/

section Doubles

open Float.Model UnpackedFloat

private theorem sign_mul_comm (left right : UnpackedFloat.Sign) : left * right = right * left := by
  cases left <;> cases right <;> rfl

private theorem unpacked_mul_comm (format : Format) (left right : UnpackedFloat) :
    UnpackedFloat.mul format left right = UnpackedFloat.mul format right left := by
  cases left with
  | notANumber => cases right <;> rfl
  | infinity sign =>
      cases right with
      | infinity other | finite other => exact congrArg infinity (sign_mul_comm sign other)
      | notANumber | zero => rfl
  | zero sign =>
      cases right with
      | zero other | finite other => exact congrArg zero (sign_mul_comm sign other)
      | notANumber | infinity => rfl
  | finite sign mantissa exponent =>
      cases right with
      | infinity other => exact congrArg infinity (sign_mul_comm sign other)
      | zero other => exact congrArg zero (sign_mul_comm sign other)
      | notANumber => rfl
      | finite other factor power =>
          -- The mantissas carry proofs that they are positive, so nothing is rewritten inside them.
          change roundWithAccuracy format (sign * other) (mantissa * factor) (exponent + power) _ =
            roundWithAccuracy format (other * sign) (factor * mantissa) (power + exponent) _
          rw [sign_mul_comm, Nat.mul_comm, Int.add_comm]

private theorem unpacked_add_comm (format : Format) (left right : UnpackedFloat) :
    UnpackedFloat.add format left right = UnpackedFloat.add format right left := by
  cases left with
  | notANumber => cases right <;> rfl
  | infinity sign =>
      cases right with
      | infinity other => cases sign <;> cases other <;> rfl
      | notANumber | zero | finite => rfl
  | zero sign =>
      cases right with
      | zero other => cases sign <;> cases other <;> rfl
      | notANumber | infinity | finite => rfl
  | finite sign mantissa exponent =>
      cases right with
      | finite other factor power =>
          change normalize format
              (sign.apply (decreaseExponent mantissa exponent (min exponent power)).1 +
                other.apply (decreaseExponent factor power (min exponent power)).1)
              (min exponent power) .positive =
            normalize format
              (other.apply (decreaseExponent factor power (min power exponent)).1 +
                sign.apply (decreaseExponent mantissa exponent (min power exponent)).1)
              (min power exponent) .positive
          rw [Int.min_comm, Int.add_comm]
      | notANumber | infinity | zero => rfl

theorem float_add_comm (left right : Float) : left + right = right + left :=
  congrArg (fun sum => Float.ofModel (Float.Model.pack sum)) (unpacked_add_comm _ _ _)

theorem float_mul_comm (left right : Float) : left * right = right * left :=
  congrArg (fun product => Float.ofModel (Float.Model.pack product)) (unpacked_mul_comm _ _ _)

end Doubles

/-!
## Values that differ only as texts
-/

namespace Value

/-- Whether two values are the same or are both texts. -/
inductive Alike : Value → Value → Prop where
  | same (value : Value) : Alike value value
  | texts (left right : String) : Alike (.text left) (.text right)

namespace Alike

variable {value other : Value}

theorem trans {last : Value} (first : Alike value other) (second : Alike other last) :
    Alike value last := by
  cases first with
  | same => exact second
  | texts left middle =>
      cases second with
      | same => exact .texts left middle
      | texts _ right => exact .texts left right

theorem isNull (alike : Alike value other) : value.isNull = other.isNull := by
  cases alike <;> rfl

theorem dataType (alike : Alike value other) : value.dataType = other.dataType := by
  cases alike <;> rfl

theorem hasLiteral (alike : Alike value other) : value.hasLiteral = other.hasLiteral := by
  cases alike <;> rfl

end Alike

/-!
## Operations on texts
-/

variable {op : ArithmeticOp} {value left right otherLeft otherRight : Value}

theorem arithmetic_text_left (text : String) (value : Value) :
    arithmetic op (.text text) value =
      if value.isNull then .ok .null else textResult op (.text text) value := by
  cases value <;> rfl

theorem arithmetic_text_right (text : String) (value : Value) :
    arithmetic op value (.text text) =
      if value.isNull then .ok .null else textResult op value (.text text) := by
  cases value <;> rfl

theorem textResult_eq_ok_iff :
    textResult op left right = .ok value ↔
      op = .add ∧ (left.dataType = .string ∨ right.dataType = .string) ∧
        .text (left.display ++ right.display) = value := by
  unfold textResult
  split
  · next joins => simp only [Except.ok.injEq, joins.1, joins.2, true_and]
  · next parts =>
    rw [not_and] at parts
    exact ⟨nofun, fun given => absurd given.2.1 (parts given.1)⟩

theorem textResult_alike (leftAlike : Alike left otherLeft) (rightAlike : Alike right otherRight)
    (applied : textResult op left right = .ok value) :
    ∃ other, textResult op otherLeft otherRight = .ok other ∧ Alike value other := by
  obtain ⟨rfl, texts, rfl⟩ := textResult_eq_ok_iff.mp applied
  rw [leftAlike.dataType, rightAlike.dataType] at texts
  exact ⟨_, textResult_eq_ok_iff.mpr ⟨rfl, texts, rfl⟩, .texts _ _⟩

/-- Host arithmetic computes alike values from alike operands. -/
theorem arithmetic_alike (leftAlike : Alike left otherLeft) (rightAlike : Alike right otherRight)
    (applied : arithmetic op left right = .ok value) :
    ∃ other, arithmetic op otherLeft otherRight = .ok other ∧ Alike value other := by
  cases leftAlike with
  | texts text otherText =>
      rw [arithmetic_text_left] at applied ⊢
      rw [← rightAlike.isNull]
      cases null : right.isNull with
      | true =>
          rw [null] at applied
          exact ⟨value, applied, .same value⟩
      | false =>
          rw [null] at applied
          exact textResult_alike (.texts text otherText) rightAlike applied
  | same =>
      cases rightAlike with
      | same => exact ⟨value, applied, .same value⟩
      | texts text otherText =>
          rw [arithmetic_text_right] at applied ⊢
          cases null : left.isNull with
          | true =>
              rw [null] at applied
              exact ⟨value, applied, .same value⟩
          | false =>
              rw [null] at applied
              exact textResult_alike (.same left) (.texts text otherText) applied

/-- Which texts are compared does not matter for whether they can be. -/
theorem ordering?_alike (leftAlike : Alike left otherLeft) (rightAlike : Alike right otherRight)
    {ordering : Option Ordering} (compared : ordering? left right = .ok ordering) :
    ∃ other, ordering? otherLeft otherRight = .ok other := by
  cases leftAlike with
  | same =>
      cases rightAlike with
      | same => exact ⟨ordering, compared⟩
      | texts text otherText =>
          cases left with
          | text first => exact ⟨_, rfl⟩
          | _ => cases compared
  | texts text otherText =>
      cases rightAlike with
      | texts second otherSecond => exact ⟨_, rfl⟩
      | same =>
          cases right with
          | text second => exact ⟨_, rfl⟩
          | _ => cases compared

theorem compared_alike {relation : Relation} (leftAlike : Alike left otherLeft)
    (rightAlike : Alike right otherRight) {holds : Bool}
    (decided : compared relation left right = .ok holds) :
    ∃ other, compared relation otherLeft otherRight = .ok other := by
  unfold compared at decided ⊢
  rw [← leftAlike.isNull, ← rightAlike.isNull]
  split at decided
  · next bothNull => exact ⟨_, if_pos bothNull⟩
  · next notBoth =>
    rw [if_neg notBoth]
    split at decided
    · next oneNull => exact ⟨_, if_pos oneNull⟩
    · next noNull =>
      rw [if_neg noNull]
      obtain ⟨ordering, ordered, _⟩ := Result.bind_eq_ok_iff.mp decided
      obtain ⟨other, otherOrdered⟩ := ordering?_alike leftAlike rightAlike ordered
      rw [otherOrdered]
      cases other <;> exact ⟨_, rfl⟩

theorem coerce_alike {target : DataType} {name otherName : String} {converted : Value}
    (alike : Alike value left) (coerced : value.coerce target name = .ok converted) :
    ∃ other, left.coerce target otherName = .ok other ∧
      converted.hasLiteral = other.hasLiteral := by
  cases alike with
  | same => exact ⟨converted, coerce_name coerced otherName, rfl⟩
  | texts text otherText =>
      rcases coerce_eq_ok_iff.mp coerced with ⟨fits, rfl⟩ | ⟨_, made⟩
      · exact ⟨.text otherText, if_pos fits, rfl⟩
      · cases target <;> cases made

/-!
## Commuted operands
-/

theorem integerResult_comm (commutes : op.Commutes) (left right : Int) :
    integerResult op left right = integerResult op right left := by
  have exact : op.exact left right = op.exact right left := by
    rcases commutes with rfl | rfl
    · exact Int.add_comm left right
    · exact Int.mul_comm left right
  have undivided : ∀ divisor : Int, ¬(op = .divide ∧ divisor = 0) := by
    rcases commutes with rfl | rfl <;> exact fun _ given => nomatch given.1
  rw [integerResult, integerResult, if_neg (undivided right), if_neg (undivided left), exact]

theorem doubleResult_comm (commutes : op.Commutes) (left right : Float) :
    doubleResult op left right = doubleResult op right left := by
  rcases commutes with rfl | rfl
  · exact congrArg Except.ok (float_add_comm left right)
  · exact congrArg Except.ok (float_mul_comm left right)

theorem widerOf_comm (left right : DataType) : left.widerOf right = right.widerOf left := by
  simp only [DataType.widerOf, or_comm]

theorem textResult_comm (applied : textResult op left right = .ok value) :
    ∃ other, textResult op right left = .ok other ∧ Alike value other := by
  obtain ⟨rfl, texts, rfl⟩ := textResult_eq_ok_iff.mp applied
  exact ⟨_, textResult_eq_ok_iff.mpr ⟨rfl, texts.symm, rfl⟩, .texts _ _⟩

/-- The result on operands that are not both integers. -/
def inexactResult (op : ArithmeticOp) (left right : Value) : Except RenderError Value :=
  match left.double?, right.double? with
  | some leftNumber, some rightNumber => do
    let number ← doubleResult op leftNumber rightNumber
    return .double number
  | _, _ => textResult op left right

theorem arithmetic_inexact (notNull : ¬(left.isNull = true ∨ right.isNull = true))
    (inexact : left.integer? = none ∨ right.integer? = none) :
    arithmetic op left right = inexactResult op left right := by
  rw [arithmetic, if_neg notNull]
  split
  · next leftInteger rightInteger =>
    rcases inexact with none | none
    · cases leftInteger.symm.trans none
    · cases rightInteger.symm.trans none
  · rfl

theorem inexactResult_comm (commutes : op.Commutes)
    (applied : inexactResult op left right = .ok value) :
    ∃ other, inexactResult op right left = .ok other ∧ Alike value other := by
  unfold inexactResult at applied ⊢
  cases leftDouble : left.double? with
  | none =>
      rw [leftDouble] at applied
      cases right.double? <;> exact textResult_comm applied
  | some leftNumber =>
      cases rightDouble : right.double? with
      | none =>
          rw [leftDouble, rightDouble] at applied
          exact textResult_comm applied
      | some rightNumber =>
          rw [leftDouble, rightDouble] at applied
          simp only [doubleResult_comm commutes leftNumber rightNumber] at applied
          exact ⟨value, applied, .same value⟩

/-- A sum or a product in the other order is the same number or null, or else another text. -/
theorem arithmetic_comm (commutes : op.Commutes)
    (applied : arithmetic op left right = .ok value) :
    ∃ other, arithmetic op right left = .ok other ∧ Alike value other := by
  by_cases null : left.isNull = true ∨ right.isNull = true
  · rw [arithmetic, if_pos null] at applied
    rw [arithmetic, if_pos null.symm]
    exact ⟨value, applied, .same value⟩
  have notNull : ¬(right.isNull = true ∨ left.isNull = true) := fun given => null given.symm
  cases leftInteger : left.integer? with
  | none =>
      rw [arithmetic_inexact null (.inl leftInteger)] at applied
      rw [arithmetic_inexact notNull (.inr leftInteger)]
      exact inexactResult_comm commutes applied
  | some leftNumber =>
      cases rightInteger : right.integer? with
      | none =>
          rw [arithmetic_inexact null (.inr rightInteger)] at applied
          rw [arithmetic_inexact notNull (.inl rightInteger)]
          exact inexactResult_comm commutes applied
      | some rightNumber =>
          rw [arithmetic, if_neg null, leftInteger, rightInteger] at applied
          rw [arithmetic, if_neg notNull, leftInteger, rightInteger]
          simp only [integerResult_comm commutes leftNumber, widerOf_comm left.dataType] at applied
          exact ⟨value, applied, .same value⟩

end Value

end QueryText
