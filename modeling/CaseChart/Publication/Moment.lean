import CaseChart.Text.Basic

namespace CaseChart

structure Date where
  year : Nat
  month : Nat
  day : Nat
  deriving DecidableEq, Repr

namespace Date

def isLeap (y : Nat) : Bool := y % 4 == 0 && (y % 100 != 0 || y % 400 == 0)

def monthLengths (y : Nat) : List Nat :=
  [31, if isLeap y then 29 else 28, 31, 30, 31, 30, 31, 31, 30, 31, 30, 31]

def daysBeforeYear (y : Nat) : Nat := 365 * (y - 1) + (y - 1) / 4 - (y - 1) / 100 + (y - 1) / 400

/-- The number of a day, with zero for the first day of year 1. -/
def toDays (d : Date) : Nat :=
  daysBeforeYear d.year + ((monthLengths d.year).take (d.month - 1)).foldr (· + ·) 0 + (d.day - 1)

/-- The year that holds the day numbered `n`, and the days of it that came before. -/
def yearOf (n : Nat) : Nat × Nat :=
  let centuries4 := n / 146097
  let n := n % 146097
  let centuries := min 3 (n / 36524)
  let n := n - 36524 * centuries
  let leaps := n / 1461
  let n := n % 1461
  let years := min 3 (n / 365)
  (400 * centuries4 + 100 * centuries + 4 * leaps + years + 1, n - 365 * years)

/-- The month, counted from `month` on, and the day in it that come `n` days into `lengths`. -/
def monthOf (month : Nat) : (lengths : List Nat) → (n : Nat) → Nat × Nat
  | [], n => (month, n + 1)
  | l :: ls, n => if n < l then (month, n + 1) else monthOf (month + 1) ls (n - l)

def ofDays (n : Nat) : Date :=
  let (year, rest) := yearOf n
  let (month, day) := monthOf 1 (monthLengths year) rest
  ⟨year, month, day⟩

end Date

/-- A local time and how far it is ahead of UTC, in microseconds. -/
structure Moment where
  date : Date
  hour : Nat := 0
  minute : Nat := 0
  second : Nat := 0
  microsecond : Nat := 0
  offset : Int := 0
  deriving DecidableEq, Repr

namespace Moment

def dayLength : Nat := 86400000000

/-- The microseconds from the start of year 1 in UTC; negative before it. -/
def instant (m : Moment) : Int :=
  ((m.date.toDays * 86400 + m.hour * 3600 + m.minute * 60 + m.second) * 1000000 + m.microsecond
    : Nat) - m.offset

def endOfTime : Nat := Date.daysBeforeYear 10000 * dayLength

/-- The instant, if it is in the years 1 to 9999. -/
def instant? (m : Moment) : Option Nat :=
  if 0 ≤ m.instant ∧ m.instant < endOfTime then some m.instant.toNat else none

def padded (width n : Nat) : Text :=
  let ds := Nat.toDigits 10 n
  List.replicate (width - ds.length) '0' ++ ds

/-- An instant down to whole milliseconds, without characters that a file name cannot have. -/
def slug (instant : Nat) : Text :=
  let date := Date.ofDays (instant / dayLength)
  let ms := instant % dayLength / 1000
  padded 4 date.year ++ '-' :: padded 2 date.month ++ '-' :: padded 2 date.day ++
    'T' :: padded 2 (ms / 3600000) ++ '-' :: padded 2 (ms / 60000 % 60) ++
    '-' :: padded 2 (ms / 1000 % 60) ++ '-' :: padded 3 (ms % 1000) ++ ['Z']

end Moment
end CaseChart
