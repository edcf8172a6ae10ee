import DashboardExport.Yaml.Scalar

/-!
# Dates and times

A date of the Gregorian calendar, alone or with a time of day and the distance of
its zone from universal time.  Two moments in zones are the same when they are the
same point in time; a moment without a zone is only the same as itself.
-/

set_option autoImplicit false

namespace DashboardExport.Yaml

structure Date where
  year : Nat
  month : Nat
  day : Nat
  deriving DecidableEq

structure Moment where
  date : Date
  hour : Nat
  minute : Nat
  second : Nat
  microsecond : Nat
  /-- The minutes by which the zone is ahead. -/
  zone? : Option Int
  deriving DecidableEq

namespace Date

def isLeap (year : Nat) : Bool := year % 4 == 0 && (year % 100 != 0 || year % 400 == 0)

def daysIn (year month : Nat) : Nat :=
  if month == 2 then if isLeap year then 29 else 28
  else if [4, 6, 9, 11].contains month then 30
  else 31

/-- The date, if the calendar has it. -/
def check (date : Date) : Except Fault Date :=
  if date.year == 0 then .error (.badDate ("year " ++ toString date.year ++ " is out of range"))
  else if date.month == 0 || 12 < date.month then .error (.badDate "month must be in 1..12")
  else if date.day == 0 || daysIn date.year date.month < date.day then
    .error (.badDate "day is out of range for month")
  else .ok date

/-- The days from the first of March of the year zero on. -/
def dayNumber (date : Date) : Int :=
  let year : Int := if date.month ≤ 2 then (date.year : Int) - 1 else date.year
  let month : Int := ((date.month + 9) % 12 : Nat)
  365 * year + year / 4 - year / 100 + year / 400 + (153 * month + 2) / 5 + date.day - 1

/-- Digits padded with zeros on the left. -/
def padded (width n : Nat) : String :=
  String.ofList (List.replicate (width - (Nat.toDigits 10 n).length) '0' ++ Nat.toDigits 10 n)

/-- A date as it is written. -/
def text (date : Date) : String :=
  padded 4 date.year ++ "-" ++ padded 2 date.month ++ "-" ++ padded 2 date.day

/-- The numbers of a date, as messages show them. -/
def numbers (date : Date) : List String :=
  [toString date.year, toString date.month, toString date.day]

/-- A date as messages show it. -/
def literal (date : Date) : String := "datetime.date(" ++ ", ".intercalate date.numbers ++ ")"

end Date

namespace Moment

/-- A distance in time as messages show it. -/
def distance (minutes : Int) : String :=
  let days := minutes.fdiv 1440
  let seconds := 60 * minutes.fmod 1440
  let parts := (if days == 0 then [] else ["days=" ++ toString days]) ++
    (if seconds == 0 then [] else ["seconds=" ++ toString seconds])
  "datetime.timedelta(" ++ (if parts.isEmpty then "0" else ", ".intercalate parts) ++ ")"

/-- A zone of less than a day. -/
def checkZone (minutes : Int) : Except Fault Int :=
  if -1440 < minutes && minutes < 1440 then .ok minutes
  else
    .error (.badDate ("offset must be a timedelta strictly between -timedelta(hours=24) and " ++
      "timedelta(hours=24), not " ++ distance minutes ++ "."))

/-- The moment, if the calendar and the clock have it. -/
def check (moment : Moment) : Except Fault Moment := do
  let _ ← moment.date.check
  if 23 < moment.hour then throw (.badDate "hour must be in 0..23")
  if 59 < moment.minute then throw (.badDate "minute must be in 0..59")
  if 59 < moment.second then throw (.badDate "second must be in 0..59")
  return moment

/-- The microseconds in universal time. -/
def instant (moment : Moment) (zone : Int) : Int :=
  (((moment.date.dayNumber * 24 + moment.hour) * 60 + moment.minute - zone) * 60 +
    moment.second) * 1000000 + moment.microsecond

/-- Whether two moments are the same. -/
def same (a b : Moment) : Bool :=
  match a.zone?, b.zone? with
  | some zoneA, some zoneB => a.instant zoneA == b.instant zoneB
  | none, none => a == b
  | _, _ => false

/-- A moment as it is written. -/
def text (moment : Moment) : String :=
  moment.date.text ++ " " ++ Date.padded 2 moment.hour ++ ":" ++ Date.padded 2 moment.minute ++
    ":" ++ Date.padded 2 moment.second ++
    (if moment.microsecond == 0 then "" else "." ++ Date.padded 6 moment.microsecond) ++
    match moment.zone? with
    | none => ""
    | some zone =>
      (if zone < 0 then "-" else "+") ++ Date.padded 2 (zone.natAbs / 60) ++ ":" ++
        Date.padded 2 (zone.natAbs % 60)

/-- A moment as messages show it. -/
def literal (moment : Moment) : String :=
  let clock := [moment.hour, moment.minute] ++
    (if moment.microsecond == 0 then
      if moment.second == 0 then [] else [moment.second]
    else [moment.second, moment.microsecond])
  let zone := match moment.zone? with
    | none => []
    | some 0 => ["tzinfo=datetime.timezone.utc"]
    | some minutes => ["tzinfo=datetime.timezone(" ++ distance minutes ++ ")"]
  let parts := moment.date.numbers ++ clock.map toString ++ zone
  "datetime.datetime(" ++ ", ".intercalate parts ++ ")"

end Moment

/-- The number that ASCII digits stand for. -/
def numeral (digits : List Char) : Nat := Nat.ofDigitChars 10 digits 0

/-- The microseconds that the digits of a fraction stand for. -/
def microseconds (fraction : List Char) : Nat :=
  let digits := fraction.take 6
  numeral (digits ++ List.replicate (6 - digits.length) '0')

/-- A date, or a date with a time of day. -/
inductive DateOrMoment where
  | date (date : Date)
  | moment (moment : Moment)

/-- The date that parts stand for. -/
def TimeParts.value (parts : TimeParts) : Except Fault DateOrMoment := do
  let date : Date :=
    { year := numeral parts.year, month := numeral parts.month, day := numeral parts.day }
  match parts.time? with
  | none => return .date (← date.check)
  | some (hour, minute, second) =>
    let zone? ← match parts.zone? with
      | none => pure none
      | some (behind, hours, minutes) =>
        let distance : Int := (60 * numeral hours + numeral minutes : Nat)
        pure (some (← Moment.checkZone (if behind then -distance else distance)))
    let moment : Moment :=
      { date, hour := numeral hour, minute := numeral minute, second := numeral second
        microsecond := microseconds parts.fraction, zone? }
    return .moment (← moment.check)

/-- The date that a text stands for. -/
def readDate (text : String) : Except Fault DateOrMoment :=
  match readTime? (withoutLineFeed text.toList) with
  | some parts => parts.value
  | none => .error .notDate

end DashboardExport.Yaml
