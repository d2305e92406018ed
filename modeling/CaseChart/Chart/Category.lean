namespace CaseChart

inductive Category where
  | courtCase
  | person
  | organisation
  | legalIssue
  | event
  | document
  | location
  deriving DecidableEq, Repr

namespace Category

def all : List Category :=
  [courtCase, person, organisation, legalIssue, event, document, location]

def name : Category → String
  | courtCase => "case"
  | person => "person"
  | organisation => "organisation"
  | legalIssue => "legal_issue"
  | event => "event"
  | document => "document"
  | location => "location"

def ofName? (s : String) : Option Category := all.find? (·.name == s)

theorem mem_all (c : Category) : c ∈ all := by cases c <;> decide

theorem ofName?_name (c : Category) : ofName? c.name = some c := by cases c <;> decide

end Category
end CaseChart
