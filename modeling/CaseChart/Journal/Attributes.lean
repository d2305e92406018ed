import CaseChart.Journal.Console
import CaseChart.Journal.Record

namespace CaseChart.Record

/-- Why a record cannot be made, or cannot be shown: an extra value has a name that is taken, or it
hides what the record does under that name. -/
inductive Flaw where
  | taken (name : String)
  | hidden (name : String)
  deriving DecidableEq, Repr

/-- The reserved names that are filled in when a record is shown. -/
def shownNames : List String := ["message", "asctime"]

/-- The reserved names that are filled in when a record is made. -/
def ownNames : List String := reserved.filter (· ∉ shownNames)

/-- What a record is made with: some value under each name of its own. -/
structure Own where
  fields : Value.Fields
  names_eq : fields.map (·.1) = ownNames

/-- Lays values over attributes, one after the other; none may have a name that stands there already
or is filled in later. -/
def overlay (fields : Value.Fields) : Value.Fields → Except Flaw Value.Fields
  | [] => .ok fields
  | e :: es =>
    if e.1 ∈ shownNames ∨ e.1 ∈ fields.map (·.1) then .error (.taken e.1)
    else overlay (Entries.set e.1 e.2 fields) es

def attributes (own : Own) (r : Record) : Except Flaw Value.Fields := overlay own.fields r.extra

def idName : String := "correlation_id"

def identify (id : Option String) (fields : Value.Fields) : Value.Fields :=
  Entries.set idName (.text (Console.idText id)) fields

/-- The name of what a record does to tell its message. No attribute of its own has the name, which
is why it is not reserved. -/
def tellName : String := "getMessage"

/-- The message that a handler is told; a value under the name of the question hides the answer. -/
def told (r : Record) : Except Flaw String :=
  if tellName ∈ r.extra.map (·.1) then .error (.hidden tellName) else .ok r.message

end CaseChart.Record
