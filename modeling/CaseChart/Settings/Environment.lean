import CaseChart.Text.Case

namespace CaseChart.Settings

abbrev Environment := List (String × String)

def sameName (a b : String) : Bool := Text.lower a.toList == Text.lower b.toList

namespace Environment

/-- The value of a variable in any case; of several the last counts. -/
def get? (env : Environment) (name : String) : Option String :=
  (env.reverse.find? fun e => sameName e.1 name).map (·.2)

/-- Why a variable cannot be set: a character that ends texts, a sign in its name that ends names,
or no name. -/
inductive Flaw where
  | endOfText
  | endOfName
  | noName
  deriving DecidableEq, Repr

def Flaw.message : Flaw → String
  | endOfText => "embedded null byte"
  | endOfName => "illegal environment variable name"
  | noName => "[Errno 22] Invalid argument"

def flaw? (name value : String) : Option Flaw :=
  if name.contains '\x00' || value.contains '\x00' then some .endOfText
  else if name.contains '=' then some .endOfName
  else if name.isEmpty then some .noName
  else none

def ofVariables (vs : List (String × String)) : Except Flaw Environment :=
  match vs.findSome? fun v => flaw? v.1 v.2 with
  | some f => .error f
  | none => .ok vs

end Environment
end CaseChart.Settings
