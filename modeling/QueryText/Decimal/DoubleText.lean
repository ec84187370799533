import QueryText.Decimal.Shortest

/-!
# Text of a double

A double is written with the fewest digits that read back as the same double, without an exponent
and without a fraction when it is whole.
-/

set_option autoImplicit false

namespace QueryText.Decimal

/-!
## Parts of a double
-/

/-- The sign bit; set for negative zero too. -/
def isNegative (number : Float) : Bool :=
  number.toBits >>> 63 != 0

def exponentBits (number : Float) : Nat :=
  (number.toBits >>> 52 &&& 0x7FF).toNat

def fractionBits (number : Float) : Nat :=
  (number.toBits &&& 0xFFFFFFFFFFFFF).toNat

def isFinite (number : Float) : Bool :=
  exponentBits number != 2047

/-- The window of the decimals that round to the magnitude of a finite double. -/
def window (number : Float) : Window :=
  if exponentBits number = 0 then
    Window.ofBinary (fractionBits number) (-1074) false
  else
    Window.ofBinary (0x10000000000000 + fractionBits number) (exponentBits number - 1075)
      (fractionBits number == 0 && exponentBits number != 1)

/-!
## Writing
-/

/-- A decimal without an exponent: zeros are added behind a whole number, and in front of a
fraction. -/
def Numeral.positional (numeral : Numeral) : List Char :=
  let digits := Nat.toDigits 10 numeral.digits
  if 0 ≤ numeral.exponent then
    digits ++ List.replicate numeral.exponent.toNat '0'
  else
    let places := (-numeral.exponent).toNat
    if places < digits.length then
      digits.take (digits.length - places) ++ '.' :: digits.drop (digits.length - places)
    else
      '0' :: '.' :: List.replicate (places - digits.length) '0' ++ digits

def doubleText (number : Float) : String :=
  if isFinite number then
    let magnitude :=
      if exponentBits number = 0 ∧ fractionBits number = 0 then ['0']
      else (window number).shortest.positional
    String.ofList (if isNegative number then '-' :: magnitude else magnitude)
  else if fractionBits number = 0 then
    if isNegative number then "-inf" else "inf"
  else "NaN"

end QueryText.Decimal
