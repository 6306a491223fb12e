/-!
# Calendar

The date and the time of day that lie a number of seconds after the start of the
year 1970. Years and months are taken off one after another, each as long as the
rules of the Gregorian calendar make it.
-/

namespace Specimen

/-- An instant in universal time, to the second. -/
structure Instant where
  year : Nat
  month : Nat
  day : Nat
  hour : Nat
  minute : Nat
  second : Nat
deriving DecidableEq

namespace Calendar

def isLeap (year : Nat) : Bool := (year % 4 == 0 && year % 100 != 0) || year % 400 == 0

def yearLength (year : Nat) : Nat := if isLeap year then 366 else 365

/-- The lengths of the months of a year, January first. -/
def monthLengths (year : Nat) : List Nat :=
  [31, if isLeap year then 29 else 28, 31, 30, 31, 30, 31, 31, 30, 31, 30, 31]

/-- The year that a day lies in, counted from the first day of `year`, and the
day's place in it. -/
def splitYear (year days : Nat) : Nat × Nat :=
  if days < yearLength year then (year, days) else splitYear (year + 1) (days - yearLength year)
termination_by days
decreasing_by
  have : 0 < yearLength year := by unfold yearLength; split <;> omega
  omega

/-- The month that a day lies in, counted from the first day of `month`, and the
day's place in it. -/
def splitMonth (month days : Nat) : List Nat → Nat × Nat
  | [] => (month, days)
  | length :: rest =>
    if days < length then (month, days) else splitMonth (month + 1) (days - length) rest

/-- The instant a number of seconds after the start of 1970. -/
def ofSeconds (seconds : Nat) : Instant :=
  let (year, dayOfYear) := splitYear 1970 (seconds / 86400)
  let (month, dayOfMonth) := splitMonth 1 dayOfYear (monthLengths year)
  { year, month, day := dayOfMonth + 1
    hour := seconds % 86400 / 3600, minute := seconds % 3600 / 60, second := seconds % 60 }

end Calendar

namespace Instant

/-- A number in decimal, with zeros in front up to a width. -/
def padded (width n : Nat) : String :=
  let ds := (toString n).toList
  .ofList (List.replicate (width - ds.length) '0' ++ ds)

def dateText (t : Instant) : String :=
  padded 4 t.year ++ "-" ++ padded 2 t.month ++ "-" ++ padded 2 t.day

def timeText (t : Instant) : String :=
  padded 2 t.hour ++ ":" ++ padded 2 t.minute ++ ":" ++ padded 2 t.second ++ "Z"

def text (t : Instant) : String := t.dateText ++ "T" ++ t.timeText

end Instant

end Specimen
