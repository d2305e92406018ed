import CaseChart.Value.Basic

namespace CaseChart.Json

def stringChar (c : Char) : Text :=
  if c = '"' ∨ c = '\\' then ['\\', c]
  else if c.toNat < 32 then '\\' :: 'u' :: Text.hex 4 c.toNat
  else [c]

def writeString (s : String) : String :=
  "\"" ++ String.ofList (s.toList.flatMap stringChar) ++ "\""

/-- A double as data, or its name. -/
def writeReal (x : Float) : String :=
  if x.isNaN then "NaN"
  else if x.isInf then (if x < 0 then "-Infinity" else "Infinity")
  else Decimal.text x

mutual

def write : Value → String
  | .null => "null"
  | .bool b => if b then "true" else "false"
  | .int n => toString n
  | .real x => writeReal x
  | .text s => writeString s
  | .list vs => "[" ++ ",".intercalate (writeItems vs) ++ "]"
  | .record fs => "\x7b" ++ ",".intercalate (writeFields fs) ++ "\x7d"

def writeItems : List Value → List String
  | [] => []
  | v :: vs => write v :: writeItems vs

def writeFields : List (String × Value) → List String
  | [] => []
  | (k, v) :: fs => (writeString k ++ ":" ++ write v) :: writeFields fs

end

end CaseChart.Json
