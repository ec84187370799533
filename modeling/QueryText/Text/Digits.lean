/-!
# Digits

Decimal numbers with leading zeros, bytes in hexadecimal, and numbers read in a base.
-/

set_option autoImplicit false

namespace QueryText.Text

/-- A number in decimal, with zeros in front up to `width` digits. -/
def paddedDecimal (width number : Nat) : String :=
  String.ofList ((Nat.toDigits 10 number).leftpad width '0')

def upperHexDigit (digit : Nat) : Char :=
  if digit < 10 then Char.ofNat (0x30 + digit) else Char.ofNat (0x41 + (digit - 10))

def hexOfBytes : List UInt8 → List Char
  | [] => []
  | byte :: rest =>
    upperHexDigit (byte.toNat / 16) :: upperHexDigit (byte.toNat % 16) :: hexOfBytes rest

def hexDigitValue? (character : Char) : Option Nat :=
  if '0' ≤ character ∧ character ≤ '9' then some (character.toNat - 0x30)
  else if 'A' ≤ character ∧ character ≤ 'F' then some (character.toNat - 0x41 + 10)
  else if 'a' ≤ character ∧ character ≤ 'f' then some (character.toNat - 0x61 + 10)
  else none

def digitValue? (base : Nat) (character : Char) : Option Nat :=
  (hexDigitValue? character).filter (· < base)

/-- The number that digits write in a base up to sixteen, most significant first. -/
def numberInBase? (base : Nat) (digits : List Char) : Option Nat :=
  digits.foldlM (fun number digit => (digitValue? base digit).map (number * base + ·)) 0

def hexNumber? (digits : List Char) : Option Nat :=
  numberInBase? 16 digits

end QueryText.Text
