/-!
# Moments

Seconds of the calendar in universal time, as documents and log lines write them.
-/

namespace ScanBinder

/-- A second of a day of the calendar. -/
structure Moment where
  year : Nat
  month : Nat
  day : Nat
  hour : Nat
  minute : Nat
  second : Nat
deriving DecidableEq

namespace Moment

/-- The decimal digits of a number, with zeros in front to make up the width. -/
def padded (width n : Nat) : String :=
  String.ofList ((Nat.toDigits 10 n).leftpad width '0')

/-- The day `n` days after the first of March of the year zero, at midnight. Counted from
March, leap days come last in their year, and months repeat every five with 153 days. -/
def ofDay (n : Nat) : Moment :=
  let age := n % 146097
  let year := (age - age / 1460 + age / 36524 - age / 146096) / 365
  let yearDay := age - (365 * year + year / 4 - year / 100)
  let month := (5 * yearDay + 2) / 153
  { year := year + 400 * (n / 146097) + if month < 10 then 0 else 1
    month := if month < 10 then month + 3 else month - 9
    day := yearDay - (153 * month + 2) / 5 + 1
    hour := 0
    minute := 0
    second := 0 }

/-- The moment `n` seconds after the start of 1970. -/
def ofSeconds (n : Nat) : Moment :=
  { ofDay (n / 86400 + 719468) with
    hour := n / 3600 % 24
    minute := n / 60 % 60
    second := n % 60 }

/-- The moment as a document gives it. -/
def documentText (m : Moment) : String :=
  "D:" ++ padded 4 m.year ++ padded 2 m.month ++ padded 2 m.day ++ padded 2 m.hour ++
    padded 2 m.minute ++ padded 2 m.second ++ "Z"

/-- The moment as a line of the log gives it, with millionths of a second. -/
def logText (m : Moment) (micros : Nat) : String :=
  padded 4 m.year ++ "-" ++ padded 2 m.month ++ "-" ++ padded 2 m.day ++ "T" ++
    padded 2 m.hour ++ ":" ++ padded 2 m.minute ++ ":" ++ padded 2 m.second ++ "." ++
    padded 6 micros ++ "Z"

end Moment

end ScanBinder
