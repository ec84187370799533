import QueryText.Dialect.Literal

/-!
# Spelling of values

Which characters the texts of numbers, moments and identifiers consist of. A number is a sign, if it
is negative, and letters, digits and points; what is written between quotes without being escaped
holds neither a quote nor a backslash.
-/

set_option autoImplicit false

namespace QueryText

namespace Text

/-- What holds of all characters of a given text is decided by going through the text, not through
all characters there are. -/
instance (priority := high) decidableForallMem (condition : Char → Prop) [DecidablePred condition]
    (text : List Char) : Decidable (∀ character ∈ text, condition character) :=
  List.decidableBAll condition text

/-!
## Digits
-/

/-- A character of an unsigned number: an ASCII letter or digit or a point. -/
def isNumeric (character : Char) : Bool :=
  character.isAlphanum || character == '.'

def isBare (character : Char) : Bool :=
  character != '\'' && character != '\\'

theorem isNumeric_of_isAlphanum {character : Char} (alphanumeric : character.isAlphanum = true) :
    isNumeric character = true := by
  simp [isNumeric, alphanumeric]

theorem isBare_of_isAlphanum {character : Char} (alphanumeric : character.isAlphanum = true) :
    isBare character = true := by
  rw [isBare, Bool.and_eq_true, bne_iff_ne, bne_iff_ne]
  constructor <;> (rintro rfl; exact absurd alphanumeric (by decide))

theorem digitChar_alphanumeric {digit : Nat} (bound : digit < 16) :
    digit.digitChar.isAlphanum = true := by
  revert digit
  decide

theorem toDigits_alphanumeric {base : Nat} (large : 1 < base) (small : base ≤ 16) (number : Nat) :
    ∀ character ∈ Nat.toDigits base number, character.isAlphanum = true := by
  induction number using Nat.strongRecOn with
  | ind number ih =>
      intro character member
      rw [Nat.toDigits_eq_if large] at member
      split at member
      · next below =>
        rw [List.mem_singleton.mp member]
        exact digitChar_alphanumeric (by omega)
      · next above =>
        rcases List.mem_append.mp member with front | last
        · have fewer : number / base < number := Nat.div_lt_self (by omega) large
          exact ih _ fewer character front
        · rw [List.mem_singleton.mp last]
          have below : number % base < base := Nat.mod_lt _ (by omega)
          exact digitChar_alphanumeric (by omega)

theorem leftpad_alphanumeric {digits : List Char} (width : Nat)
    (alphanumeric : ∀ character ∈ digits, character.isAlphanum = true) :
    ∀ character ∈ digits.leftpad width '0', character.isAlphanum = true := by
  intro character member
  rcases List.mem_append.mp member with padding | digit
  · rw [List.eq_of_mem_replicate padding]
    decide
  · exact alphanumeric character digit

theorem paddedDecimal_alphanumeric (width number : Nat) :
    ∀ character ∈ (paddedDecimal width number).toList, character.isAlphanum = true := by
  rw [paddedDecimal, String.toList_ofList]
  exact leftpad_alphanumeric width (toDigits_alphanumeric (by decide) (by decide) number)

theorem repr_alphanumeric (number : Nat) :
    ∀ character ∈ number.repr.toList, character.isAlphanum = true := by
  rw [Nat.toList_repr]
  exact toDigits_alphanumeric (by decide) (by decide) number

theorem upperHexDigit_alphanumeric {digit : Nat} (bound : digit < 16) :
    (upperHexDigit digit).isAlphanum = true := by
  revert digit
  decide

theorem hexOfBytes_alphanumeric (bytes : List UInt8) :
    ∀ character ∈ hexOfBytes bytes, character.isAlphanum = true := by
  induction bytes with
  | nil => simp [hexOfBytes]
  | cons byte rest ih =>
      have bound := byte.toNat_lt
      have high : (upperHexDigit (byte.toNat / 16)).isAlphanum = true :=
        upperHexDigit_alphanumeric (by omega)
      have low : (upperHexDigit (byte.toNat % 16)).isAlphanum = true :=
        upperHexDigit_alphanumeric (by omega)
      simp only [hexOfBytes, List.forall_mem_cons]
      exact ⟨high, low, ih⟩

theorem bare_hexOfBytes (bytes : List UInt8) :
    ∀ character ∈ hexOfBytes bytes, isBare character = true :=
  fun character member => isBare_of_isAlphanum (hexOfBytes_alphanumeric bytes character member)

/-- A number behind an underscore can be read back from the end of a text. -/
theorem position_unique {front other : List Char} {position elsewhere : Nat}
    (same : front ++ '_' :: Nat.toDigits 10 position = other ++ '_' :: Nat.toDigits 10 elsewhere) :
    position = elsewhere := by
  have suffix : ∀ (front : List Char) (position : Nat),
      (front ++ '_' :: Nat.toDigits 10 position).reverse.takeWhile (· != '_') =
        (Nat.toDigits 10 position).reverse := by
    intro front position
    have digits : ∀ character ∈ (Nat.toDigits 10 position).reverse, (character != '_') = true := by
      intro character member
      rw [List.mem_reverse] at member
      rw [bne_iff_ne]
      rintro rfl
      exact Nat.underscore_not_in_toDigits member
    rw [List.reverse_append, List.reverse_cons, List.append_assoc,
      List.takeWhile_append_of_pos digits]
    simp
  have digits : Nat.toDigits 10 position = Nat.toDigits 10 elsewhere :=
    List.reverse_inj.mp (by rw [← suffix front, ← suffix other, same])
  rw [← Nat.ofDigitChars_ten_toDigits (n := position), digits, Nat.ofDigitChars_ten_toDigits]

end Text

/-!
## Signed numbers
-/

/-- A number is written as a magnitude, with a minus in front of a negative one. -/
def Text.Signed (negative : Bool) (text : List Char) : Prop :=
  ∃ magnitude, text = (if negative then ['-'] else []) ++ magnitude ∧ magnitude ≠ [] ∧
    ∀ character ∈ magnitude, isNumeric character = true

/-- A character of an unsigned decimal: a digit or a point. -/
def Text.isFigure (character : Char) : Bool :=
  character.isDigit || character == '.'

/-- A decimal is a number that is written without letters. -/
def Text.InFigures (negative : Bool) (text : List Char) : Prop :=
  ∃ magnitude, text = (if negative then ['-'] else []) ++ magnitude ∧ magnitude ≠ [] ∧
    ∀ character ∈ magnitude, isFigure character = true

theorem Text.InFigures.signed {negative : Bool} {text : List Char}
    (figures : InFigures negative text) : Signed negative text := by
  obtain ⟨magnitude, rfl, filled, each⟩ := figures
  refine ⟨magnitude, rfl, filled, fun character member => ?_⟩
  rcases Bool.or_eq_true_iff.mp (each character member) with digit | point
  · exact isNumeric_of_isAlphanum (by simp [Char.isAlphanum, digit])
  · simp [isNumeric, eq_of_beq point]

theorem Text.toDigits_figures (number : Nat) :
    ∀ character ∈ Nat.toDigits 10 number, isFigure character = true := by
  intro character member
  have digit := Nat.isDigit_of_mem_toDigits (by decide) (by decide) member
  simp [isFigure, digit]

theorem Text.int_inFigures (number : Int) : InFigures (number < 0) number.repr.toList := by
  rw [Int.repr_eq_if]
  split
  · next natural =>
    have nonnegative : decide (number < 0) = false := by simpa using natural
    rw [nonnegative, Nat.toList_repr]
    exact ⟨_, rfl, Nat.toDigits_ne_nil, toDigits_figures _⟩
  · next negative =>
    have below : decide (number < 0) = true := by simpa using negative
    rw [below, String.toList_append, Nat.toList_repr]
    exact ⟨_, rfl, Nat.toDigits_ne_nil, toDigits_figures _⟩

namespace Decimal

theorem positional_ne_nil (numeral : Numeral) : numeral.positional ≠ [] := by
  unfold Numeral.positional
  split
  · simp [Nat.toDigits_ne_nil]
  · simp only
    split <;> simp

theorem positional_figures (numeral : Numeral) :
    ∀ character ∈ numeral.positional, Text.isFigure character = true := by
  have digits := Text.toDigits_figures numeral.digits
  have zeros : ∀ count, ∀ character ∈ List.replicate count '0',
      Text.isFigure character = true := by
    intro count character member
    rw [List.eq_of_mem_replicate member]
    decide
  unfold Numeral.positional
  split
  · exact List.forall_mem_append.mpr ⟨digits, zeros _⟩
  · simp only
    split
    · refine List.forall_mem_append.mpr ⟨fun character member => digits character
        (List.mem_of_mem_take member), List.forall_mem_cons.mpr ⟨by decide, ?_⟩⟩
      exact fun character member => digits character (List.mem_of_mem_drop member)
    · exact List.forall_mem_cons.mpr ⟨by decide, List.forall_mem_cons.mpr
        ⟨by decide, List.forall_mem_append.mpr ⟨zeros _, digits⟩⟩⟩

theorem double_inFigures {number : Float} (finite : isFinite number = true) :
    Text.InFigures (isNegative number) (doubleText number).toList := by
  rw [doubleText, if_pos finite]
  have written : ∀ magnitude : List Char, magnitude ≠ [] →
      (∀ character ∈ magnitude, Text.isFigure character = true) →
      Text.InFigures (isNegative number)
        (String.ofList (if isNegative number then '-' :: magnitude else magnitude)).toList := by
    intro magnitude filled figures
    refine ⟨magnitude, ?_, filled, figures⟩
    rw [String.toList_ofList]
    split <;> rfl
  by_cases zero : exponentBits number = 0 ∧ fractionBits number = 0
  · simp only [if_pos zero]
    exact written _ (by decide) (by decide)
  · simp only [if_neg zero]
    exact written _ (positional_ne_nil _) (positional_figures _)

end Decimal

/-- Whether a value is a number with a minus in its literal; negative zero has one too. -/
def Value.isNegative : Value → Bool
  | .int16 value => value.toInt < 0
  | .int32 value => value.toInt < 0
  | .int64 value => value.toInt < 0
  | .double value => Decimal.isNegative value
  | _ => false

/-!
## Quoted values
-/

namespace Text

variable {left right : String}

private theorem bare_append
    (leftBare : ∀ character ∈ left.toList, isBare character = true)
    (rightBare : ∀ character ∈ right.toList, isBare character = true) :
    ∀ character ∈ (left ++ right).toList, isBare character = true := by
  rw [String.toList_append]
  exact List.forall_mem_append.mpr ⟨leftBare, rightBare⟩

private theorem bare_paddedDecimal (width number : Nat) :
    ∀ character ∈ (paddedDecimal width number).toList, isBare character = true :=
  fun character member =>
    isBare_of_isAlphanum (paddedDecimal_alphanumeric width number character member)

theorem bare_date (date : Date) : ∀ character ∈ date.text.toList, isBare character = true := by
  have year : ∀ character ∈ (Date.yearText date.year).toList, isBare character = true := by
    unfold Date.yearText
    split
    · exact bare_paddedDecimal _ _
    · split
      · exact bare_append (by decide) (bare_paddedDecimal _ _)
      · exact bare_append (by decide) (bare_paddedDecimal _ _)
  exact bare_append (bare_append (bare_append (bare_append year (by decide))
    (bare_paddedDecimal _ _)) (by decide)) (bare_paddedDecimal _ _)

theorem bare_dateTime (moment : DateTime) :
    ∀ character ∈ moment.text.toList, isBare character = true := by
  have time : ∀ character ∈ moment.timeText.toList, isBare character = true :=
    bare_append (bare_append (bare_append (bare_append (bare_paddedDecimal _ _) (by decide))
      (bare_paddedDecimal _ _)) (by decide)) (bare_paddedDecimal _ _)
  exact bare_append (bare_append (bare_date moment.date) (by decide)) time

private theorem bare_hyphenate (lengths : List Nat) {digits : List Char}
    (bare : ∀ character ∈ digits, isBare character = true) :
    ∀ character ∈ Uuid.hyphenate lengths digits, isBare character = true := by
  fun_induction Uuid.hyphenate lengths digits with
  | case1 => exact bare
  | case2 => exact bare
  | case3 length lengths digits _ ih =>
      have front : ∀ character ∈ digits.take length, isBare character = true :=
        fun character member => bare character (List.mem_of_mem_take member)
      have others := ih fun character member => bare character (List.mem_of_mem_drop member)
      exact List.forall_mem_append.mpr ⟨front, List.forall_mem_cons.mpr ⟨by decide, others⟩⟩

theorem bare_uuid (uuid : Uuid) : ∀ character ∈ uuid.text.toList, isBare character = true := by
  rw [Uuid.text, String.toList_ofList]
  exact bare_hyphenate _ fun character member => isBare_of_isAlphanum
    (leftpad_alphanumeric 32 (toDigits_alphanumeric (by decide) (by decide) _) character member)

end Text

end QueryText
