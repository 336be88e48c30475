import Almanac.Number.Numeral

/-!
# Moments

Days of the calendar, and times of day on them, perhaps with the distance of their zone
from the meridian. Years are counted from 1, and all years have the leap days of today's
calendar.
-/

namespace Almanac

/-- A time of day, and how many minutes its zone is ahead of the meridian, if it is of a
zone. -/
structure TimeOfDay where
  hour : Nat
  minute : Nat
  second : Nat
  microsecond : Nat
  zone : Option Int
deriving DecidableEq

/-- A day, and a time on it if one is given. -/
structure Moment where
  year : Nat
  month : Nat
  day : Nat
  time : Option TimeOfDay
deriving DecidableEq

/-- There is such a time of day, and such a zone. -/
def TimeOfDay.occurs (t : TimeOfDay) : Bool :=
  t.hour < 24 && t.minute < 60 && t.second < 60 && t.zone.all fun z => z.natAbs < 24 * 60

namespace Moment

/-- A year with a 29th of February. -/
def isLeap (year : Nat) : Bool := year % 4 == 0 && (year % 100 != 0 || year % 400 == 0)

/-- How many days a month has. -/
def daysIn (year month : Nat) : Nat :=
  if month = 2 then if isLeap year then 29 else 28
  else if month = 4 ∨ month = 6 ∨ month = 9 ∨ month = 11 then 30
  else 31

/-- There is such a moment. -/
def occurs (m : Moment) : Bool :=
  0 < m.year && 0 < m.month && m.month ≤ 12 && 0 < m.day && m.day ≤ daysIn m.year m.month &&
    m.time.all TimeOfDay.occurs

/-! ## Order -/

/-- How many days of a year lie before one of its months. -/
def daysBefore (year : Nat) : Nat → Nat
  | 0 => 0
  | month + 1 => daysBefore year month + if month = 0 then 0 else daysIn year month

/-- The number of a day, counted from the first day of year 1. -/
def dayNumber (m : Moment) : Nat :=
  let past := m.year - 1
  365 * past + past / 4 - past / 100 + past / 400 + daysBefore m.year m.month + m.day

/-- What moments are compared with: days with days, times of no zone with their like, and
times of a zone with those of any zone. -/
inductive Scale where
  | days
  | unzoned
  | zoned
deriving DecidableEq

/-- The scale of a moment, and its place on it: the number of a day, or of a microsecond,
which for a time of a zone is counted at the meridian. -/
def ordinal (m : Moment) : Scale × Int :=
  match m.time with
  | none => (.days, m.dayNumber)
  | some t =>
    let minutes : Int := (m.dayNumber * 24 + t.hour) * 60 + t.minute
    let at_ := fun (minutes : Int) => (minutes * 60 + t.second) * 1000000 + t.microsecond
    match t.zone with
    | none => (.unzoned, at_ minutes)
    | some z => (.zoned, at_ (minutes - z))

/-! ## Text -/

/-- A number in decimal, with zeros in front up to a width. -/
def padded (width n : Nat) : Text :=
  List.replicate (width - (Text.ofNat n).length) '0' ++ Text.ofNat n

/-- The distance of a zone: hours and minutes behind the sign. -/
def zoneText (z : Int) : Text :=
  (if z < 0 then '-' else '+') :: (padded 2 (z.natAbs / 60) ++ ':' :: padded 2 (z.natAbs % 60))

/-- The time of day as text; a fraction of a second is written only if there is one. -/
def timeText (t : TimeOfDay) : Text :=
  padded 2 t.hour ++ ':' :: (padded 2 t.minute ++ ':' :: padded 2 t.second) ++
    (if t.microsecond = 0 then [] else '.' :: padded 6 t.microsecond) ++
    (match t.zone with | some z => zoneText z | none => [])

/-- The moment as text: the day, and the time behind a space. -/
def text (m : Moment) : Text :=
  padded 4 m.year ++ '-' :: (padded 2 m.month ++ '-' :: padded 2 m.day) ++
    match m.time with
    | some t => ' ' :: timeText t
    | none => []

/-- A length of time in minutes, as days and seconds; the seconds are not negative. -/
def lengthShown (minutes : Int) : Text :=
  let days := minutes / (24 * 60)
  let seconds := minutes % (24 * 60) * 60
  let parts := (if days = 0 then [] else ["days=".toList ++ Text.ofInt days]) ++
    (if seconds = 0 then [] else ["seconds=".toList ++ Text.ofInt seconds])
  "datetime.timedelta(".toList ++ Text.joined [',', ' '] parts ++ [')']

/-- A zone as it is shown inside a list. -/
def zoneShown (z : Int) : Text :=
  "datetime.timezone".toList ++ if z = 0 then ".utc".toList else '(' :: (lengthShown z ++ [')'])

/-- The seconds of a time of day and their fraction, as far as they are not zero. -/
def secondsShown (t : TimeOfDay) : List Nat :=
  if t.microsecond = 0 then if t.second = 0 then [] else [t.second]
  else [t.second, t.microsecond]

/-- The moment as it is shown inside a list: its parts by number. -/
def shown (m : Moment) : Text :=
  let day := [m.year, m.month, m.day]
  match m.time with
  | none => "datetime.date(".toList ++ Text.joined [',', ' '] (day.map Text.ofNat) ++ [')']
  | some t =>
    let parts := (day ++ [t.hour, t.minute] ++ secondsShown t).map Text.ofNat ++
      (match t.zone with | some z => ["tzinfo=".toList ++ zoneShown z] | none => [])
    "datetime.datetime(".toList ++ Text.joined [',', ' '] parts ++ [')']

end Moment

end Almanac
