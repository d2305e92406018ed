import CaseChart.Chart.Category
import CaseChart.Chart.Facts
import CaseChart.Chart.Header
import CaseChart.Firsts

namespace CaseChart

inductive Flaw where
  | empty
  | noHeader
  | unknownCategory (name : Text)
  | noEntities
  | unbalanced
  deriving DecidableEq, Repr

inductive Hint where
  | noGroups
  | noRelationships
  | noStyles
  deriving DecidableEq, Repr

def unknownCategoryMessage (name : String) : String :=
  s!"Invalid entity class: {name}. Allowed: " ++ ", ".intercalate (Category.all.map Category.name)

def Flaw.message : Flaw → String
  | empty => "diagram is empty"
  | noHeader => "Diagram must start with \"graph TD\", \"graph LR\", \"graph BT\", or \"graph RL\""
  | unknownCategory name => unknownCategoryMessage (String.ofList name)
  | noEntities => "No entities defined in diagram"
  | unbalanced => "Unbalanced brackets in diagram"

def Hint.message : Hint → String
  | noGroups => "No subgraphs found. Consider organizing entities by type."
  | noRelationships => "No relationships defined. Diagram may only show isolated entities."
  | noStyles => "No CSS class definitions found. Diagram may not render with colors."

structure Verdict where
  errors : List String
  warnings : List String
  deriving DecidableEq, Repr

/-- A chart is valid if it has no errors, whatever its warnings. -/
def Verdict.isValid (v : Verdict) : Bool := v.errors.isEmpty

namespace Chart

/-- The distinct tags that name no category, in order of first appearance. -/
def unknownTags (f : Facts) : List Text :=
  firsts (f.tags.filter fun t => (Category.ofName? (String.ofList t)).isNone)

def flaws (t : Text) : List Flaw :=
  if Text.isBlankText t then [.empty] else
    let t := Text.trim t
    let f := Facts.ofText t
    (if (Header.ofChart? t).isNone then [.noHeader] else []) ++
      (unknownTags f).map .unknownCategory ++
      (if f.labels = 0 then [.noEntities] else []) ++
      (if f.balanced then [] else [.unbalanced])

def hints (t : Text) : List Hint :=
  if Text.isBlankText t then [] else
    let f := Facts.ofText (Text.trim t)
    (if f.groups = 0 then [.noGroups] else []) ++
      (if f.markers = 0 then [.noRelationships] else []) ++
      (if f.styles = 0 then [.noStyles] else [])

def validate (t : Text) : Verdict := ⟨(flaws t).map Flaw.message, (hints t).map Hint.message⟩

end Chart
end CaseChart
