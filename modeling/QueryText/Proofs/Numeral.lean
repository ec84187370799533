import QueryText.Proofs.Spelling

/-!
# Reading numbers

Numbers as a reader finds them in a statement: decimal digits, with a minus in front of a negative
number, and bytes in pairs of hexadecimal digits. A number ends before the first character that is
no digit, and there the number that has been written is read back.
-/

set_option autoImplicit false

namespace QueryText.Text

variable {rest : List Char}

/-!
## Decimal numbers
-/

/-- The number whose digits stand at the front of a text, and what follows them. -/
def natural? (text : List Char) : Option (Nat × List Char) :=
  match text.takeWhile Char.isDigit with
  | [] => none
  | digits => some (Nat.ofDigitChars 10 digits 0, text.dropWhile Char.isDigit)

def integer? : List Char → Option (Int × List Char)
  | '-' :: rest => (natural? rest).map fun (magnitude, after) => (-(magnitude : Int), after)
  | text => (natural? text).map fun (number, after) => ((number : Int), after)

/-- A text that does not go on with a digit. -/
def EndsDigits (isDigit : Char → Bool) (rest : List Char) : Prop :=
  ∀ character ∈ rest.head?, isDigit character = false

variable {isDigit : Char → Bool}

theorem endsDigits_nil : EndsDigits isDigit [] := nofun

theorem EndsDigits.takeWhile (ends : EndsDigits isDigit rest) : rest.takeWhile isDigit = [] := by
  cases rest with
  | nil => rfl
  | cons character rest => exact List.takeWhile_cons_of_neg (by simp [ends character rfl])

theorem EndsDigits.dropWhile (ends : EndsDigits isDigit rest) : rest.dropWhile isDigit = rest := by
  cases rest with
  | nil => rfl
  | cons character rest => exact List.dropWhile_cons_of_neg (by simp [ends character rfl])

theorem natural?_repr (number : Nat) (ends : EndsDigits Char.isDigit rest) :
    natural? (number.repr.toList ++ rest) = some (number, rest) := by
  have digits : ∀ character ∈ Nat.toDigits 10 number, character.isDigit = true :=
    fun _ member => Nat.isDigit_of_mem_toDigits (by decide) (by decide) member
  rw [Nat.toList_repr, natural?, List.takeWhile_append_of_pos digits, ends.takeWhile,
    List.append_nil, List.dropWhile_append_of_pos digits, ends.dropWhile]
  split
  · next empty => exact absurd empty Nat.toDigits_ne_nil
  · rw [Nat.ofDigitChars_ten_toDigits]

theorem integer?_natural {number : Nat} {text : List Char}
    (read : natural? text = some (number, rest)) :
    integer? text = some ((number : Int), rest) := by
  unfold integer?
  split
  · cases read
  · rw [read]
    rfl

theorem integer?_repr (number : Int) (ends : EndsDigits Char.isDigit rest) :
    integer? (number.repr.toList ++ rest) = some (number, rest) := by
  rw [Int.repr_eq_if]
  split
  · next natural =>
    have read := integer?_natural (natural?_repr number.toNat ends)
    rwa [Int.toNat_of_nonneg natural] at read
  · next negative =>
    have read := natural?_repr (-number).toNat ends
    have magnitude : ((-number).toNat : Int) = -number := Int.toNat_of_nonneg (by omega)
    have signed : ("-" ++ (-number).toNat.repr).toList ++ rest =
        '-' :: ((-number).toNat.repr.toList ++ rest) := by
      rw [String.toList_append]
      rfl
    simp only [signed, integer?, read, Option.map_some, magnitude, Int.neg_neg]

/-!
## Bytes
-/

def isHexDigit (character : Char) : Bool :=
  (hexDigitValue? character).isSome

/-- The bytes that pairs of hexadecimal digits write. -/
def hexBytes? : List Char → Option (List UInt8)
  | [] => some []
  | [_] => none
  | high :: low :: rest => do
    let high ← hexDigitValue? high
    let low ← hexDigitValue? low
    let bytes ← hexBytes? rest
    return UInt8.ofNat (16 * high + low) :: bytes

theorem hexDigitValue?_upperHexDigit {digit : Nat} (bound : digit < 16) :
    hexDigitValue? (upperHexDigit digit) = some digit := by
  revert digit
  decide

theorem hexDigitValue?_byte (byte : UInt8) :
    hexDigitValue? (upperHexDigit (byte.toNat / 16)) = some (byte.toNat / 16) ∧
      hexDigitValue? (upperHexDigit (byte.toNat % 16)) = some (byte.toNat % 16) := by
  have bound := byte.toNat_lt
  exact ⟨hexDigitValue?_upperHexDigit (by omega), hexDigitValue?_upperHexDigit (by omega)⟩

theorem hexOfBytes_hexDigits (bytes : List UInt8) :
    ∀ character ∈ hexOfBytes bytes, isHexDigit character = true := by
  induction bytes with
  | nil => exact nofun
  | cons byte rest ih =>
      obtain ⟨high, low⟩ := hexDigitValue?_byte byte
      simp only [hexOfBytes, List.forall_mem_cons]
      exact ⟨by rw [isHexDigit, high]; rfl, by rw [isHexDigit, low]; rfl, ih⟩

/-- The bytes whose hexadecimal digits stand at the front of a text, and what follows them. -/
def hexDigits? (text : List Char) : Option (List UInt8 × List Char) :=
  (hexBytes? (text.takeWhile isHexDigit)).map (·, text.dropWhile isHexDigit)

theorem hexBytes?_hexOfBytes (bytes : List UInt8) : hexBytes? (hexOfBytes bytes) = some bytes := by
  induction bytes with
  | nil => rfl
  | cons byte rest ih =>
      obtain ⟨high, low⟩ := hexDigitValue?_byte byte
      have same : UInt8.ofNat (16 * (byte.toNat / 16) + byte.toNat % 16) = byte := by
        rw [Nat.div_add_mod, UInt8.ofNat_toNat]
      rw [hexOfBytes, hexBytes?, high, low, ih]
      simp only [bind, Option.bind, same]
      rfl

theorem hexDigits?_hexOfBytes (bytes : List UInt8) (ends : EndsDigits isHexDigit rest) :
    hexDigits? (hexOfBytes bytes ++ rest) = some (bytes, rest) := by
  have digits := hexOfBytes_hexDigits bytes
  rw [hexDigits?, List.takeWhile_append_of_pos digits, ends.takeWhile, List.append_nil,
    List.dropWhile_append_of_pos digits, ends.dropWhile, hexBytes?_hexOfBytes]
  rfl

end QueryText.Text
