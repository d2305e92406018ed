import CaseChart.Text.Case

namespace CaseChart.Level

abbrev debug : Int := 10
abbrev info : Int := 20
abbrev warning : Int := 30
abbrev error : Int := 40

def name (level : Int) : String :=
  if level = 50 then "CRITICAL"
  else if level = 40 then "ERROR"
  else if level = 30 then "WARNING"
  else if level = 20 then "INFO"
  else if level = 10 then "DEBUG"
  else if level = 0 then "NOTSET"
  else s!"Level {level}"

def ofName? (s : String) : Option Int :=
  match s with
  | "CRITICAL" | "FATAL" => some 50
  | "ERROR" => some 40
  | "WARNING" | "WARN" => some 30
  | "INFO" => some 20
  | "DEBUG" => some 10
  | "NOTSET" => some 0
  | _ => none

/-- The level at which the completion of a request is noted, by its status. -/
def ofStatus (status : Int) : Int :=
  if 500 ≤ status then error else if 400 ≤ status then warning else info

/-- Whether a record of some level passes a threshold; level zero never does. -/
def passes (threshold level : Int) : Bool := 0 < level && threshold ≤ level

end CaseChart.Level
