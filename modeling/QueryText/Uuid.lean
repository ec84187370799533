import QueryText.Text.Digits

/-!
# Unique identifiers

A unique identifier is a number of 128 bits, written as 32 hexadecimal digits in five groups.
-/

set_option autoImplicit false

namespace QueryText

structure Uuid where
  bits : BitVec 128
  deriving DecidableEq

namespace Uuid

instance : Ord Uuid where
  compare := compareOn Uuid.bits

def groupLengths : List Nat := [8, 4, 4, 4, 12]

def hyphenate : List Nat → List Char → List Char
  | [], digits => digits
  | [_], digits => digits
  | length :: lengths, digits =>
    digits.take length ++ '-' :: hyphenate lengths (digits.drop length)

def text (uuid : Uuid) : String :=
  String.ofList (hyphenate groupLengths ((Nat.toDigits 16 uuid.bits.toNat).leftpad 32 '0'))

def ofText? (text : String) : Option Uuid :=
  let groups := text.toList.splitOn '-'
  if groups.map List.length = groupLengths then
    (Text.hexNumber? groups.flatten).map fun number => ⟨BitVec.ofNat 128 number⟩
  else none

end Uuid

end QueryText
