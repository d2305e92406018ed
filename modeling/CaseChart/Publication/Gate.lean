import CaseChart.Chart.Verdict
import CaseChart.Publication.Payload

namespace CaseChart.Publication

/-- The file for a chart that is valid. A missing chart is an empty one. -/
def prepare (chart : Option Text) (name : Option Text) (now : Moment) : Except Fault Payload :=
  let chart := chart.getD []
  let verdict := Chart.validate chart
  if verdict.isValid then Payload.build chart name now
  else .error (Cause.invalidChart verdict.errors).fault

structure Outcome where
  success : Bool
  url : Option String := none
  error : Option String := none
  deriving DecidableEq, Repr

/-- A publication: its outcome, and the files that the publisher received. -/
structure Attempt where
  result : Except Fault Outcome
  sent : List Payload

/-- Hands the file for a chart to a publisher, if it gets through the gate. -/
def publish (chart name : Option Text) (publisher : Payload → Outcome) (now : Moment) : Attempt :=
  match prepare chart name now with
  | .ok payload => ⟨.ok (publisher payload), [payload]⟩
  | .error fault => ⟨.error fault, []⟩

end CaseChart.Publication
