import QueryText.Calendar.Date
import QueryText.Text.Digits

/-!
# TOML numbers and times

The scalars of a TOML document that are written without quotes. They are only checked, since no
setting is a number or a time.
-/

set_option autoImplicit false

namespace QueryText.Toml

/-!
## Numbers
-/

/-- Digits with single underscores between them; the result is without the underscores. -/
def digitGroups? (isDigit : Char → Bool) (characters : List Char) : Option (List Char) :=
  let groups := characters.splitOn '_'
  if groups.all fun group => !group.isEmpty && group.all isDigit then some groups.flatten else none

def ofDigits (base : Nat) (digits : List Char) : Nat :=
  digits.foldl (fun number digit => number * base + (Text.hexDigitValue? digit).getD 0) 0

def splitSign : List Char → Bool × List Char
  | '-' :: rest => (true, rest)
  | '+' :: rest => (false, rest)
  | characters => (false, characters)

def decimalDigits? (characters : List Char) : Option (List Char) :=
  match characters with
  | '0' :: _ :: _ => none
  | _ => digitGroups? Char.isDigit characters

/-- The integer that a text writes in base ten, or without a sign in base sixteen, eight or two. -/
def integer? (characters : List Char) : Option Int :=
  match characters with
  | '0' :: 'x' :: rest =>
    (digitGroups? (fun digit => (Text.hexDigitValue? digit).isSome) rest).map fun digits =>
      ofDigits 16 digits
  | '0' :: 'o' :: rest =>
    (digitGroups? (fun digit => '0' ≤ digit && digit ≤ '7') rest).map fun digits =>
      ofDigits 8 digits
  | '0' :: 'b' :: rest =>
    (digitGroups? (fun digit => digit == '0' || digit == '1') rest).map fun digits =>
      ofDigits 2 digits
  | _ =>
    let (negative, rest) := splitSign characters
    (decimalDigits? rest).map fun digits =>
      if negative then -(ofDigits 10 digits : Int) else ofDigits 10 digits

def fitsWord (number : Int) : Bool :=
  -(Nat.pow 2 127 : Nat) ≤ number && number < (Nat.pow 2 128 : Nat)

/-- Whether `digits * 10 ^ exponent` rounds to an infinite double. -/
def overflowsDouble (digits : List Char) (exponent : Int) : Bool :=
  let significant := digits.dropWhile (· == '0')
  let places := exponent + significant.length
  if significant.isEmpty ∨ places < 300 then false
  else if 310 < places then true
  else
    (Nat.pow 2 1024 - Nat.pow 2 970) * Nat.pow 10 (-exponent).toNat ≤
      ofDigits 10 significant * Nat.pow 10 exponent.toNat

/-- The exponent that follows an `e`, which may begin with zeros. -/
def exponent? (characters : List Char) : Option Int :=
  let (negative, rest) := splitSign characters
  (digitGroups? Char.isDigit rest).map fun digits =>
    if negative then -(ofDigits 10 digits : Int) else ofDigits 10 digits

def isDouble (characters : List Char) : Bool :=
  let (_, magnitude) := splitSign characters
  let isExponentMark := fun character => character == 'e' || character == 'E'
  let mantissa := magnitude.takeWhile fun character => !isExponentMark character
  let exponentPart := magnitude.drop mantissa.length
  let whole := mantissa.takeWhile (· != '.')
  let fractionPart := mantissa.drop whole.length
  if magnitude = "inf".toList ∨ magnitude = "nan".toList then true
  else if exponentPart.isEmpty ∧ fractionPart.isEmpty then false
  else
    let wholeDigits := decimalDigits? whole
    let fractionDigits :=
      if fractionPart.isEmpty then some []
      else digitGroups? Char.isDigit (fractionPart.drop 1)
    let exponent := if exponentPart.isEmpty then some 0 else exponent? (exponentPart.drop 1)
    match wholeDigits, fractionDigits, exponent with
    | some wholeDigits, some fractionDigits, some exponent =>
      !overflowsDouble (wholeDigits ++ fractionDigits) (exponent - fractionDigits.length)
    | _, _, _ => false

/-!
## Times
-/

/-- A number of exactly `count` digits at the beginning, and what follows it. -/
def fixedNumber? (count : Nat) (characters : List Char) : Option (Nat × List Char) :=
  let digits := characters.take count
  if digits.length = count ∧ digits.all Char.isDigit then
    some (ofDigits 10 digits, characters.drop count)
  else none

def afterDate? (characters : List Char) : Option (List Char) := do
  let (year, rest) ← fixedNumber? 4 characters
  let '-' :: rest := rest | none
  let (month, rest) ← fixedNumber? 2 rest
  let '-' :: rest := rest | none
  let (day, rest) ← fixedNumber? 2 rest
  let _ ← Date.ofNumbers? year month day
  return rest

def afterFraction? : List Char → Option (List Char)
  | '.' :: digit :: rest =>
    if digit.isDigit then some (rest.dropWhile Char.isDigit) else none
  | '.' :: [] => none
  | characters => some characters

/-- What follows the seconds of a time, if it has them; second 60 is allowed. -/
def afterSeconds? : List Char → Option (List Char)
  | ':' :: rest => do
    let (second, rest) ← fixedNumber? 2 rest
    if 60 < second then none else afterFraction? rest
  | characters => some characters

def afterMinutes? (characters : List Char) : Option (List Char) := do
  let (hour, rest) ← fixedNumber? 2 characters
  let ':' :: rest := rest | none
  let (minute, rest) ← fixedNumber? 2 rest
  if hour < 24 ∧ minute < 60 then some rest else none

def afterTime? (characters : List Char) : Option (List Char) := do
  let rest ← afterMinutes? characters
  afterSeconds? rest

/-- Whether a text is the end of a moment: nothing, the zero offset, or an offset from it. -/
def isOffset : List Char → Bool
  | [] | ['Z'] | ['z'] => true
  | '+' :: rest | '-' :: rest => afterMinutes? rest == some []
  | _ => false

def isMoment (characters : List Char) : Bool :=
  match afterDate? characters with
  | some [] => true
  | some (separator :: rest) =>
    (separator == 'T' || separator == 't' || separator == ' ') &&
      ((afterTime? rest).map isOffset).getD false
  | none => afterTime? characters == some []

end QueryText.Toml
