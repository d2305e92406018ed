import CaseChart.Decimal.Digits
import CaseChart.Publication.Moment

namespace CaseChart.Moment

inductive Flaw where
  | offset (microseconds : Int)
  | year (number : Int)
  | month
  | day
  | hour
  | minute
  | second
  | microsecond
  deriving DecidableEq, Repr

/-- A distance in time by its days, which are negative if it is, its seconds and microseconds. -/
def distanceText (microseconds : Int) : String :=
  let seconds := microseconds / 1000000
  let parts : List (String × Int) := [("days", seconds / 86400), ("seconds", seconds % 86400),
    ("microseconds", microseconds % 1000000)]
  let shown := (parts.filter (·.2 ≠ 0)).map fun (name, n) => s!"{name}={n}"
  "datetime.timedelta(" ++ ", ".intercalate shown ++ ")"

def Flaw.message : Flaw → String
  | offset microseconds =>
    "offset must be a timedelta strictly between -timedelta(hours=24) and " ++
      "timedelta(hours=24), not " ++ distanceText microseconds ++ "."
  | year number => s!"year {number} is out of range"
  | month => "month must be in 1..12"
  | day => "day is out of range for month"
  | hour => "hour must be in 0..23"
  | minute => "minute must be in 0..59"
  | second => "second must be in 0..59"
  | microsecond => "microsecond must be in 0..999999"

def within (lo hi n : Int) : Bool := lo ≤ n && n ≤ hi

def monthLength (year month : Nat) : Nat := (Date.monthLengths year).getD (month - 1) 0

def ofNumbers (year month day hour minute second microsecond offset : Int) : Except Flaw Moment :=
  if !within (1 - dayLength) (dayLength - 1) offset then .error (.offset offset)
  else if !within 1 9999 year then .error (.year year)
  else if !within 1 12 month then .error .month
  else if !within 1 (monthLength year.toNat month.toNat) day then .error .day
  else if !within 0 23 hour then .error .hour
  else if !within 0 59 minute then .error .minute
  else if !within 0 59 second then .error .second
  else if !within 0 999999 microsecond then .error .microsecond
  else .ok ⟨⟨year.toNat, month.toNat, day.toNat⟩, hour.toNat, minute.toNat, second.toNat,
    microsecond.toNat, offset⟩

/-- Seconds in microseconds: whole seconds as they are, of the rest the nearest, a tie to the even
one. -/
def microsecondsOf (seconds : Float) : Int :=
  let whole := (Decimal.Binary.ofFloat seconds).truncate
  let rest := Decimal.Binary.ofFloat ((seconds - Float.ofInt whole) * 1000000.0)
  let n : Int := Decimal.roundHalfEven rest.num rest.den
  whole * 1000000 + (if rest.negative then -n else n)

end CaseChart.Moment
