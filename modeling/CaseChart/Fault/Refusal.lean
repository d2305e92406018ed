import CaseChart.Value.Basic

namespace CaseChart

/-- What a refusal is about: a call of the wrong shape, an invalid chart, a failed extraction,
or anything else. -/
inductive Refusal.Kind where
  | general
  | argument
  | chart
  | extraction
  deriving DecidableEq, Repr

structure Refusal where
  kind : Refusal.Kind
  message : String
  details : Value.Fields
  errors : List String := []

namespace Refusal

def ofGeneral (message : String) (details : Value.Fields) : Refusal :=
  ⟨.general, message, details, []⟩

/-- Details that name an argument, unless its name is empty. -/
def nameArgument (argument : Option String) (details : Value.Fields) : Value.Fields :=
  match argument with
  | none => details
  | some name => if name = "" then details else Entries.set "argument" (.text name) details

def ofArgument (message : String) (argument : Option String) (details : Value.Fields) : Refusal :=
  ⟨.argument, message, nameArgument argument details, []⟩

def listErrors (errors : List String) (details : Value.Fields) : Value.Fields :=
  if errors.isEmpty then details else Entries.set "errors" (.texts errors) details

def ofChart (message : String) (errors : List String) (details : Value.Fields) : Refusal :=
  ⟨.chart, message, listErrors errors details, errors⟩

def ofExtraction (message : String) (details : Value.Fields) : Refusal :=
  ⟨.extraction, message, details, []⟩

def text (r : Refusal) : Except Decimal.IntegerFlaw String :=
  if r.details.isEmpty then .ok r.message
  else (Value.record r.details).written.map (r.message ++ " | Details: " ++ ·)

end Refusal
end CaseChart
