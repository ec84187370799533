import QueryText.Calendar.Date

/-!
# Date and time

A moment of a day without a time zone, exact to the nanosecond. A leap second has the number of the
second that it follows and a nanosecond count of a thousand million and more. In numbers it can only
be given behind second 59 of a minute.
-/

set_option autoImplicit false

namespace QueryText

def nanosPerSecond : Nat := 1000000000

structure DateTime where
  date : Date
  hour : Nat
  minute : Nat
  second : Nat
  nanos : Nat
  hour_valid : hour < 24
  minute_valid : minute < 60
  second_valid : second < 60
  nanos_valid : nanos < 2 * nanosPerSecond
  deriving DecidableEq

namespace DateTime

def ofNumbers? (date : Date) (hour minute second nanos : Nat) : Option DateTime :=
  if hour_valid : hour < 24 then
    if minute_valid : minute < 60 then
      if second_valid : second < 60 then
        if nanos_valid : nanos < nanosPerSecond ∨ nanos < 2 * nanosPerSecond ∧ second = 59 then
          some ⟨date, hour, minute, second, nanos, hour_valid, minute_valid, second_valid,
            by unfold nanosPerSecond at *; omega⟩
        else none
      else none
    else none
  else none

def midnight (date : Date) : DateTime :=
  ⟨date, 0, 0, 0, 0, by decide, by decide, by decide, by decide⟩

/-- Earlier moments are smaller; a leap second lies between the second before it and the next one
that is none. -/
instance : Ord DateTime where
  compare := compareLex (compareOn DateTime.date) <| compareLex (compareOn DateTime.hour) <|
    compareLex (compareOn DateTime.minute) <| compareLex (compareOn DateTime.second)
      (compareOn DateTime.nanos)

/-!
## Text
-/

/-- The second that a clock shows: 60 in a leap second behind second 59. -/
def shownSecond (moment : DateTime) : Nat :=
  if nanosPerSecond ≤ moment.nanos then moment.second + 1 else moment.second

def timeText (moment : DateTime) : String :=
  Text.paddedDecimal 2 moment.hour ++ ":" ++ Text.paddedDecimal 2 moment.minute ++ ":" ++
    Text.paddedDecimal 2 moment.shownSecond

def text (moment : DateTime) : String :=
  moment.date.text ++ " " ++ moment.timeText

/-- The part of a second: nothing, or a point and three, six or nine digits, the fewest that are
exact. -/
def fractionText (moment : DateTime) : String :=
  let nanos := moment.nanos % nanosPerSecond
  if nanos = 0 then ""
  else if nanos % 1000000 = 0 then "." ++ Text.paddedDecimal 3 (nanos / 1000000)
  else if nanos % 1000 = 0 then "." ++ Text.paddedDecimal 6 (nanos / 1000)
  else "." ++ Text.paddedDecimal 9 nanos

def exactText (moment : DateTime) : String :=
  moment.date.text ++ "T" ++ moment.timeText ++ moment.fractionText

end DateTime

end QueryText
