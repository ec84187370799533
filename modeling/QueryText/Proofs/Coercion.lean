import QueryText.Proofs.ExactArithmetic
import QueryText.Value.Coercion

/-!
# Outcomes of coercion

What a coercion that succeeds has done: it kept a value that fits, or it converted one that does
not. Whatever holds of coerced values is read off these two cases.
-/

set_option autoImplicit false

namespace QueryText.Value

variable {value coerced : Value} {target : DataType} {name : String}

/-!
## Conversions
-/

theorem converted?_dataType (made : value.converted? target = some coerced) :
    coerced.dataType = target := by
  unfold converted? at made
  split at made
  · split at made
    next double =>
      cases made
      exact double.symm
    next => exact (ofInteger?_eq_some_iff.mp made).1
  · split at made
    · cases made
      rfl
    · cases made

theorem converted?_notNull (made : value.converted? target = some coerced) :
    coerced.isNull = false := by
  unfold converted? at made
  split at made
  · split at made
    · cases made
      rfl
    · exact isNull_eq_false (ofInteger?_eq_some_iff.mp made).2
  · split at made
    · cases made
      rfl
    · cases made

/-!
## Coercions
-/

theorem coerce_eq_ok_iff :
    value.coerce target name = .ok coerced ↔
      (value.isNull = true ∨ target = .object ∨ value.dataType = target) ∧ value = coerced ∨
      ¬(value.isNull = true ∨ target = .object ∨ value.dataType = target) ∧
        value.converted? target = some coerced := by
  rw [coerce]
  split
  next fits => simp [fits]
  next unfit => cases value.converted? target <;> simp [unfit]

theorem coerce_self (value : Value) (name : String) :
    value.coerce value.dataType name = .ok value :=
  if_pos (.inr (.inr rfl))

/-- The name of a column only shows in errors. -/
theorem coerce_name (result : value.coerce target name = .ok coerced) (other : String) :
    value.coerce target other = .ok coerced :=
  coerce_eq_ok_iff.mpr (coerce_eq_ok_iff.mp result)

/-- Coercion makes no null and loses none. -/
theorem coerce_isNull (coercion : value.coerce target name = .ok coerced) :
    coerced.isNull = value.isNull := by
  rcases coerce_eq_ok_iff.mp coercion with ⟨_, rfl⟩ | ⟨unfit, made⟩
  · rfl
  · rw [not_or, Bool.not_eq_true] at unfit
    rw [converted?_notNull made, unfit.1]

/-- A coerced value is of the type to which it is coerced, unless any value fits there. -/
theorem coerce_dataType (coercion : value.coerce target name = .ok coerced)
    (changed : ¬(value.isNull = true ∨ target = .object)) : coerced.dataType = target := by
  rcases coerce_eq_ok_iff.mp coercion with ⟨fits, rfl⟩ | ⟨_, made⟩
  · rw [← or_assoc] at fits
    exact fits.resolve_left changed
  · exact converted?_dataType made

end QueryText.Value
