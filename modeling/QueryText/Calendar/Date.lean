import QueryText.Text.Digits

/-!
# Dates

Days of the proleptic Gregorian calendar. The year zero is the year before the year one.
-/

set_option autoImplicit false

namespace QueryText

/-!
## Calendar rules
-/

def isLeapYear (year : Int) : Bool :=
  year % 4 == 0 && (year % 100 != 0 || year % 400 == 0)

def daysInMonth (year : Int) (month : Nat) : Nat :=
  if month = 2 then if isLeapYear year then 29 else 28
  else if month = 4 ∨ month = 6 ∨ month = 9 ∨ month = 11 then 30
  else 31

structure Date where
  year : Int
  month : Nat
  day : Nat
  month_valid : 1 ≤ month ∧ month ≤ 12
  day_valid : 1 ≤ day ∧ day ≤ daysInMonth year month
  deriving DecidableEq

namespace Date

def ofNumbers? (year : Int) (month day : Nat) : Option Date :=
  if month_valid : 1 ≤ month ∧ month ≤ 12 then
    if day_valid : 1 ≤ day ∧ day ≤ daysInMonth year month then
      some ⟨year, month, day, month_valid, day_valid⟩
    else none
  else none

instance : Ord Date where
  compare :=
    compareLex (compareOn Date.year) (compareLex (compareOn Date.month) (compareOn Date.day))

/-!
## Text
-/

/-- A year with at least four digits; one outside 0 to 9999 carries its sign. -/
def yearText (year : Int) : String :=
  if 0 ≤ year ∧ year ≤ 9999 then Text.paddedDecimal 4 year.natAbs
  else if year < 0 then "-" ++ Text.paddedDecimal 4 year.natAbs
  else "+" ++ Text.paddedDecimal 4 year.natAbs

def text (date : Date) : String :=
  yearText date.year ++ "-" ++ Text.paddedDecimal 2 date.month ++ "-" ++
    Text.paddedDecimal 2 date.day

end Date

end QueryText
