import CaseChart.Fault.Basic
import CaseChart.Journal.Level
import CaseChart.Publication.Moment

namespace CaseChart.Console

def threshold (name : String) : Except Fault Int :=
  let name := String.ofList (Text.upper name.toList)
  match Level.ofName? name with
  | some level => .ok level
  | none => .error (.unknownLevel name)

/-- The level from which the access log of the server is shown. -/
def accessLevel : Int := Level.warning

def epochDay : Nat := Date.toDays ⟨1970, 1, 1⟩

/-- Why a time has no date: its seconds or its year are beyond the numbers of the clock. -/
inductive TimeFlaw where
  | seconds
  | year
  | yearNumber
  deriving DecidableEq, Repr

def TimeFlaw.message : TimeFlaw → String
  | seconds => "timestamp out of range for platform time_t"
  | year => "[Errno 75] Value too large for defined data type"
  | yearNumber => "signed integer is greater than maximum"

/-- The date that is `days` after the start of 1970, its year apart: the calendar repeats itself
every 400 years, so that a year may be any number. -/
def dateOf (days : Int) : Int × Date :=
  let days := days + epochDay
  let date := Date.ofDays (days % 146097).toNat
  (400 * (days / 146097) + date.year, date)

/-- The date and the time of day, `seconds` after the start of 1970, in UTC. The year has no more
digits than it needs. -/
def timeText (seconds : Int) : Except TimeFlaw Text :=
  let (year, date) := dateOf (seconds / 86400)
  let s := (seconds % 86400).toNat
  if seconds < -0x8000000000000000 ∨ 0x8000000000000000 ≤ seconds then .error .seconds
  else if year - 1900 < -0x80000000 ∨ 0x80000000 ≤ year - 1900 then .error .year
  else if 0x80000000 ≤ year then .error .yearNumber
  else .ok ((toString year).toList ++ '-' :: Moment.padded 2 date.month ++ '-' ::
    Moment.padded 2 date.day ++ ' ' :: Moment.padded 2 (s / 3600) ++ ':' ::
    Moment.padded 2 (s / 60 % 60) ++ ':' :: Moment.padded 2 (s % 60))

def idText (id : Option String) : String :=
  match id with
  | some s => if s = "" then "-" else s
  | none => "-"

def line (seconds : Int) (logger : String) (level : Int) (id : Option String) (message : String) :
    Except TimeFlaw String :=
  (timeText seconds).map fun time =>
    " - ".intercalate [String.ofList time, logger, Level.name level,
      "[" ++ idText id ++ "] " ++ message]

end CaseChart.Console
