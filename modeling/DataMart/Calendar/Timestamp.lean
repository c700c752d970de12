import DataMart.Calendar.Date

/-!
# Times of day on a date

A `Timestamp` is a date with a time of day to the nanosecond and no time zone. A leap second is the
second before it running on: its nanoseconds count from one to two thousand million, and its text
shows the next second. Any second may run on, but a time is built from parts only if none but second
59 does.
-/

namespace DataMart.Calendar

/-- Nanoseconds in a second. -/
def nanosPerSecond : Nat := 1000000000

/-- Whether the parts name a time of day, which may lie in a leap second. -/
def isTime (hour minute second nanos : Nat) : Bool :=
  hour < 24 && minute < 60 && second < 60 && nanos < 2 * nanosPerSecond

/-- A date with a time of day. -/
structure Timestamp where
  date : Date
  hour : Nat
  minute : Nat
  second : Nat
  nanos : Nat
  isTime : Calendar.isTime hour minute second nanos = true
  deriving DecidableEq

/-- A leap second, if the time lies in one, is the last of its minute. -/
def Timestamp.LeapAtEnd (t : Timestamp) : Prop := t.nanos < nanosPerSecond ∨ t.second = 59

instance (t : Timestamp) : Decidable t.LeapAtEnd := inferInstanceAs (Decidable (_ ∨ _))

/-- The timestamp with the given parts, if there is such a time of day and a leap second in it is the
last of its minute. -/
def Timestamp.ofParts? (date : Date) (hour minute second nanos : Nat) : Option Timestamp :=
  if h : Calendar.isTime hour minute second nanos = true then
    let t : Timestamp := ⟨date, hour, minute, second, nanos, h⟩
    if t.LeapAtEnd then some t else none
  else none

/-- The fraction of a second: nothing for zero, else three, six or nine digits, the fewest that are
exact. -/
def fractionText (nanos : Nat) : String :=
  if nanos = 0 then ""
  else if nanos % 1000000 = 0 then "." ++ Text.zeroPadded 3 (nanos / 1000000)
  else if nanos % 1000 = 0 then "." ++ Text.zeroPadded 6 (nanos / 1000)
  else "." ++ Text.zeroPadded 9 nanos

/-- The time of day in text; a leap second shows as the second after the one that runs on. -/
def Timestamp.timeText (t : Timestamp) : String :=
  let leap := nanosPerSecond ≤ t.nanos
  let second := if leap then t.second + 1 else t.second
  let nanos := if leap then t.nanos - nanosPerSecond else t.nanos
  Text.zeroPadded 2 t.hour ++ ":" ++ Text.zeroPadded 2 t.minute ++ ":" ++ Text.zeroPadded 2 second ++
    fractionText nanos

/-- A timestamp in text, `between` standing between the date and the time. -/
def Timestamp.textWith (between : String) (t : Timestamp) : String :=
  t.date.text ++ between ++ t.timeText

/-- A timestamp as it is shown and stored. -/
def Timestamp.text (t : Timestamp) : String := t.textWith " "

/-- The timestamp some hours later, if it can be named by its parts. -/
def Timestamp.addHours? (t : Timestamp) (hours : Int) : Option Timestamp := do
  let total := (t.hour : Int) + hours
  let date ← t.date.addDays? (total.fdiv 24)
  Timestamp.ofParts? date (total.fmod 24).toNat t.minute t.second t.nanos

end DataMart.Calendar
