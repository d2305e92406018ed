import CaseChart.Chart.Report
import CaseChart.Document.Basic
import CaseChart.Fault.Cause

namespace CaseChart

structure ModelReply where
  success : Bool
  chart : Text := []
  error : Option String := none
  deriving DecidableEq, Repr

/-- A model: its answer to the `n`-th request, which sends it some documents. -/
abbrev Model := Nat → List Document → ModelReply

namespace Extraction

/-- The documents of each request that was made, and the charts or the first failure. -/
structure Answers where
  asked : List (List Document)
  charts : Except (Document × Option String) (List Text)

/-- Asks for one document after the other, the first request being number `n`. -/
def ask (model : Model) (n : Nat) : List Document → Answers
  | [] => ⟨[], .ok []⟩
  | d :: ds =>
    let reply := model n [d]
    if reply.success then
      let rest := ask model (n + 1) ds
      ⟨[d] :: rest.asked, rest.charts.map (reply.chart :: ·)⟩
    else ⟨[[d]], .error (d, reply.error)⟩

structure Run where
  asked : List (List Document)
  result : Except Cause Report

def size (ds : List Document) : Nat := ds.foldr (fun d n => d.text.length + n) 0

/-- Extracts a chart from documents, refused before any request if there are none or their text
is too long. -/
def run (l : Limits) (model : Model) (ds : List Document) : Run :=
  if ds.isEmpty then ⟨[], .error .noDocuments⟩
  else match Guard.textLength l (size ds) with
    | some breach => ⟨[], .error (.longText breach)⟩
    | none =>
      let answers := ask model 0 ds
      ⟨answers.asked,
        match answers.charts with
        | .ok charts => .ok (Chart.analyze charts)
        | .error (d, error) => .error (.requestFailed d.name error)⟩

end Extraction
end CaseChart
