import Polyhierarchy.Time.Calendar
import Polyhierarchy.Text.Digits
/-!
# Instants

A point of universal time, exact to the nanosecond. A leap second is kept apart from the second
before it: it is that second with a thousand million nanoseconds more.

## Main definitions

* `Instant` — seconds since the beginning of 1970, and nanoseconds.
* `Instant.toText` — the written form, with as many groups of three decimals as are needed.
* `Instant.yearText`, `Instant.monthText` — the year, and the year with the month.
* `Instant.toMicroseconds` — the instant without what is finer than a microsecond.
-/

namespace Polyhierarchy

/-- A point of universal time. -/
structure Instant where
  /-- Whole seconds since the beginning of 1970. -/
  seconds : Int
  /-- Nanoseconds; from a thousand million on, the second is a leap second. -/
  nanos : Nat
  deriving DecidableEq, Inhabited

namespace Instant

/-- Whether one instant comes before another. -/
def isBefore (a b : Instant) : Bool :=
  a.seconds < b.seconds || (a.seconds == b.seconds && a.nanos < b.nanos)

/-- The instant that lies a number of milliseconds after the beginning of 1970. -/
def ofMilliseconds (ms : Int) : Instant :=
  ⟨ms.fdiv 1000, ((ms.fmod 1000) * 1000000).toNat⟩

/-- The date of the instant. -/
def date (t : Instant) : Time.Date := Time.Date.ofDay (t.seconds.fdiv 86400)

/-- The second of the day, leap seconds aside. -/
def secondOfDay (t : Instant) : Nat := (t.seconds.fmod 86400).toNat

/-! ### Writing -/

/-- A year: four digits from year 0 to 9999, else a sign and at least four digits. -/
def yearChars (year : Int) : List Char :=
  if 0 ≤ year ∧ year ≤ 9999 then Text.decimalPadded 4 year.toNat
  else (if year < 0 then '-' else '+') :: Text.decimalPadded 4 year.natAbs

/-- A fraction of a second: nothing if it is zero, else a point and 3, 6 or 9 digits, the fewest
that are exact. -/
def fractionChars (nanos : Nat) : List Char :=
  if nanos = 0 then []
  else if nanos % 1000000 = 0 then '.' :: Text.decimalPadded 3 (nanos / 1000000)
  else if nanos % 1000 = 0 then '.' :: Text.decimalPadded 6 (nanos / 1000)
  else '.' :: Text.decimalPadded 9 nanos

/-- The written form: date, `T`, time of day and `Z`. -/
def toText (t : Instant) : String :=
  let d := t.date
  let s := t.secondOfDay
  let leap := 1000000000 ≤ t.nanos
  let two := Text.decimalPadded 2
  String.ofList <|
    yearChars d.year ++ '-' :: two d.month ++ '-' :: two d.day ++ 'T' :: two (s / 3600) ++
      ':' :: two (s / 60 % 60) ++ ':' :: two (s % 60 + if leap then 1 else 0) ++
      fractionChars (if leap then t.nanos - 1000000000 else t.nanos) ++ ['Z']

/-- The year of the instant, as it is written in dates. -/
def yearText (t : Instant) : String := String.ofList (yearChars t.date.year)

/-- The year and the month of the instant. -/
def monthText (t : Instant) : String :=
  String.ofList (yearChars t.date.year ++ '-' :: Text.decimalPadded 2 t.date.month)

/-! ### Coarser clocks -/

/-- The beginning of the year 2000, in seconds since 1970. -/
def year2000 : Int := 946684800

/-- The instant cut to whole microseconds, toward the beginning of the year 2000. A leap second
runs on into the next second. -/
def toMicroseconds (t : Instant) : Instant :=
  let nanos := (t.seconds - year2000) * 1000000000 + t.nanos
  let micros := nanos.tdiv 1000
  ⟨year2000 + micros.fdiv 1000000, ((micros.fmod 1000000) * 1000).toNat⟩

end Instant

end Polyhierarchy
