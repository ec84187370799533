import QueryText.Proofs.HostOrder
import QueryText.Proofs.ParameterTypes

/-!
# Coercion as a retraction

Coercion takes a value to the values of a type and leaves those where they are. Between integer
types it keeps the integer. So it succeeds exactly where the type has room for the integer, it can
be undone, and nothing that only depends on the integer can tell whether a value has been coerced:
no comparison with an integer, and no further coercion.
-/

set_option autoImplicit false

namespace QueryText.Value

variable {value other coerced : Value} {target : DataType} {name : String} {number : Int}

/-!
## Integers
-/

theorem comparand?_integer (denotes : value.integer? = some number) :
    value.comparand? = some (.integer number) := by
  cases value with
  | int16 | int32 | int64 =>
      cases denotes
      rfl
  | _ => cases denotes

/-- Comparisons with an integer tell integers apart and nothing else. -/
theorem compared_integer {otherNumber : Int} (denotes : value.integer? = some number)
    (otherDenotes : other.integer? = some otherNumber) (op : Relation) :
    compared op value other = .ok (op.accepts (compare number otherNumber)) :=
  compared_seen op (comparand?_integer denotes) (comparand?_integer otherDenotes)

theorem converted?_integer (denotes : value.integer? = some number) (target : DataType) :
    value.converted? target =
      if target = .double then some (.double (Float.ofInt number))
      else ofInteger? target number := by
  simp only [converted?, denotes]

/-- What an integer is coerced to depends on the number and the type alone. -/
theorem coerce_integer_iff (denotes : value.integer? = some number) (typed : target ≠ .object) :
    value.coerce target name = .ok coerced ↔
      (if target = .double then some (.double (Float.ofInt number))
        else ofInteger? target number) = some coerced := by
  have integer := isInteger_dataType denotes
  by_cases own : value.dataType = target
  · subst own
    have notDouble : value.dataType ≠ .double := fun double => by
      rw [double] at integer
      cases integer
    rw [coerce_self, if_neg notDouble, ofInteger?_eq_some_iff.mpr ⟨rfl, denotes⟩,
      Except.ok.injEq, Option.some.injEq]
  · rw [coerce_eq_ok_iff, isNull_eq_false denotes, converted?_integer denotes]
    simp [typed, own]

/-- Coercion between integer types finds the integer in the other type. -/
theorem coerce_between_iff (denotes : value.integer? = some number)
    (integer : target.isInteger = true) :
    value.coerce target name = .ok coerced ↔
      coerced.dataType = target ∧ coerced.integer? = some number := by
  have notDouble : target ≠ .double := by
    rintro rfl
    cases integer
  have typed : target ≠ .object := by
    rintro rfl
    cases integer
  rw [coerce_integer_iff denotes typed, if_neg notDouble, ofInteger?_eq_some_iff]

/-- Values of one integer are coerced alike to every type but `object`. -/
theorem coerce_congr (denotes : value.integer? = some number)
    (otherDenotes : other.integer? = some number) (typed : target ≠ .object) :
    value.coerce target name = .ok coerced ↔ other.coerce target name = .ok coerced := by
  rw [coerce_integer_iff denotes typed, coerce_integer_iff otherDenotes typed]

/-!
## Coercion
-/

/-- Coercion is a retraction to the values of a type. Between integer types it succeeds exactly
where the type has room for the integer, which it keeps: comparisons with integers come out the
same afterwards, so do further coercions, and a coercion back restores the value. -/
theorem coerce_retracts (value : Value) (target : DataType) (name : String) :
    (∀ coerced, value.coerce target name = .ok coerced →
      (value.isNull = true ∨ target = .object → coerced = value) ∧
      (¬(value.isNull = true ∨ target = .object) → coerced.dataType = target) ∧
      coerced.coerce target name = .ok coerced) ∧
    ∀ number, value.integer? = some number → target.isInteger = true →
      ((∃ coerced, value.coerce target name = .ok coerced) ↔ target.Spans number) ∧
      ∀ coerced, value.coerce target name = .ok coerced →
        coerced.integer? = some number ∧
        (∀ op other otherNumber, other.integer? = some otherNumber →
          compared op coerced other = compared op value other ∧
          compared op other coerced = compared op other value) ∧
        coerced.coerce value.dataType name = .ok value ∧
        ∀ last, last ≠ .object → ∀ result,
          coerced.coerce last name = .ok result ↔ value.coerce last name = .ok result := by
  refine ⟨fun coerced coercion => ?_, fun number denotes integer => ⟨?_, ?_⟩⟩
  · refine ⟨fun kept => ?_, coerce_dataType coercion, coerce_fits (coerce_ok_fits coercion) name⟩
    have fits : value.Fits target := kept.imp_right .inl
    exact Except.ok.inj (coercion.symm.trans (coerce_fits fits name))
  · simp only [coerce_between_iff denotes integer, ← ofInteger?_eq_some_iff]
    rw [← Option.ne_none_iff_exists', Ne, ofInteger?_eq_none_iff integer, not_not]
  · intro coerced coercion
    obtain ⟨_, same⟩ := (coerce_between_iff denotes integer).mp coercion
    refine ⟨same, fun op other otherNumber otherDenotes => ⟨?_, ?_⟩, ?_,
      fun last typed result => ?_⟩
    · rw [compared_integer same otherDenotes, compared_integer denotes otherDenotes]
    · rw [compared_integer otherDenotes same, compared_integer otherDenotes denotes]
    · exact (coerce_between_iff same (isInteger_dataType denotes)).mpr ⟨rfl, denotes⟩
    · exact coerce_congr same denotes typed

theorem coerce_retracts_sampleAge :
    (∃ coerced, (Value.int64 18).coerce .int16 "Age" = .ok coerced ∧
      coerced.dataType = .int16 ∧ coerced.integer? = some 18 ∧
      compared .lt coerced (.int32 70000) = compared .lt (.int64 18) (.int32 70000) ∧
      coerced.coerce .int64 "Age" = .ok (.int64 18)) ∧
    (¬∃ coerced, (Value.int64 70000).coerce .int16 "Age" = .ok coerced) ∧
    ∀ coerced, Value.null.coerce .int16 "Age" = .ok coerced → coerced = .null := by
  obtain ⟨typed, integers⟩ := coerce_retracts (.int64 18) .int16 "Age"
  obtain ⟨fits, keeps⟩ := integers 18 rfl rfl
  obtain ⟨coerced, coercion⟩ := fits.mpr (by decide)
  obtain ⟨same, compares, back, _⟩ := keeps coerced coercion
  refine ⟨⟨coerced, coercion, (typed coerced coercion).2.1 (by decide), same,
    (compares .lt (.int32 70000) 70000 rfl).1, back⟩, ?_, fun coerced coercion => ?_⟩
  · rw [((coerce_retracts (.int64 70000) .int16 "Age").2 70000 rfl rfl).1]
    decide
  · exact ((coerce_retracts .null .int16 "Age").1 coerced coercion).1 (.inl rfl)

end QueryText.Value
