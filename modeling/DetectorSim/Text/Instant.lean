/-!
# Points in time

A point in time, counted in seconds from the start of the year 1970, is written
with its date and its time of day in universal time.
-/

set_option autoImplicit false

namespace DetectorSim.Text

/-- A number with leading zeros. -/
def padded (width n : Nat) : String :=
  let digits := toString n
  String.ofList (List.replicate (width - digits.length) '0') ++ digits

/-- A day of the calendar. -/
structure Date where
  year : Nat
  month : Nat
  day : Nat
  deriving DecidableEq, Repr, Inhabited

/-- The day that comes a number of days after the first day of March of the
year zero.  Four hundred years have 146097 days, and in years that start with
March five months have 153 days, again and again. -/
def dateOfDays (days : Nat) : Date :=
  let cycle := days / 146097
  let dayOfCycle := days % 146097
  let yearOfCycle :=
    (dayOfCycle - dayOfCycle / 1460 + dayOfCycle / 36524 - dayOfCycle / 146096) / 365
  let dayOfYear := dayOfCycle - (365 * yearOfCycle + yearOfCycle / 4 - yearOfCycle / 100)
  let monthOfYear := (5 * dayOfYear + 2) / 153
  let day := dayOfYear - (153 * monthOfYear + 2) / 5 + 1
  let month := if monthOfYear < 10 then monthOfYear + 3 else monthOfYear - 9
  let year := 400 * cycle + yearOfCycle + (if month ≤ 2 then 1 else 0)
  ⟨year, month, day⟩

/-- The days from the first day of March of the year zero to the start of
1970. -/
def daysBeforeEpoch : Nat := 719468

/-- The text of a point in time. -/
def instant (seconds : Nat) : String :=
  let date := dateOfDays (seconds / 86400 + daysBeforeEpoch)
  let rest := seconds % 86400
  s!"{padded 4 date.year}-{padded 2 date.month}-{padded 2 date.day}T"
    ++ s!"{padded 2 (rest / 3600)}:{padded 2 (rest / 60 % 60)}:{padded 2 (rest % 60)}Z"

example : instant 0 = "1970-01-01T00:00:00Z" := by decide +kernel

example : instant 951782399 = "2000-02-28T23:59:59Z" := by decide +kernel

end DetectorSim.Text
